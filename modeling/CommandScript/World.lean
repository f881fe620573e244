import CommandScript.Interpreter

/-!
# Worlds laid down in advance

A world that answers the questions of dispatches from what was laid down for it, and records what
it is asked: numbers are drawn from a list, and so are the replies of servers. The registries, the
store of variables and the files are part of it.

## Main definitions

- `CommandScript.World` — the state of a world
- `CommandScript.World.answer` — its answers
- `CommandScript.World.run` — running a program in it
-/

namespace CommandScript

/-- The state of a world. -/
structure World where
  registries : Registries
  store : Store
  /-- The numbers that will be drawn; then the lower bound is drawn each time. -/
  draws : List Int
  /-- The replies of servers to come; then no server can be reached. -/
  replies : List Http.Reply
  /-- What the host keeps, and how it answers questions in terms of its own. -/
  host : Value
  answerHost : Value → Value → Value × Value
  heard : List (String × SideEffect)
  drawn : List (Int × Int)
  requests : List Http.Request
  sleeps : List Binary64
  files : Files
  log : List Log.Entry

namespace World

/-- The fault that a request meets when no server can be reached. -/
def unreachable : Http.Fault := ⟨"ConnectError", "no route"⟩

/-- A world with one registry for a runtime of the given version, and nothing laid down. -/
def empty (version : Value) : World where
  registries := ⟨[.empty version]⟩
  store := .single
  draws := []
  replies := []
  host := .null
  answerHost := fun state _ => (.null, state)
  heard := []
  drawn := []
  requests := []
  sleeps := []
  files := []
  log := []

/-- The answer to an effect on behalf of a command. -/
def answerEffect (w : World) (command : Option (Option String)) :
    (q : Effect) → q.Answer × World
  | .store q =>
    let (r, store) := w.store.perform q
    (r, { w with store := store })
  | .draw low high =>
    (w.draws.head?.getD low,
      { w with draws := w.draws.tail, drawn := w.drawn ++ [(low, high)] })
  | .send r =>
    (w.replies.head?.getD (.fault unreachable),
      { w with replies := w.replies.tail, requests := w.requests ++ [r] })
  | .sleep seconds => ((), { w with sleeps := w.sleeps ++ [seconds] })
  | .openFile path => (w.files.opened path, w)
  | .log note => ((), { w with log := w.log ++ [⟨note, command⟩] })
  | .host v =>
    let (r, host) := w.answerHost w.host v
    (r, { w with host := host })
  | .pause => ((), w)

/-- The answer to a question. -/
def answer (w : World) : (q : Question) → q.Answer × World
  | .find h key => (w.registries.find? h key, w)
  | .change h c =>
    let changed := w.registries.apply h c
    ((changed.notices, changed.failure), { w with registries := changed.registries })
  | .layer base ds =>
    let (r, registries) := w.registries.layer base ds
    (r, { w with registries := registries })
  | .effect command q => w.answerEffect command q
  | .notify listener diagnostic => ((), { w with heard := w.heard ++ [(listener, diagnostic)] })
  | .observe .. => ((), w)

/-- A world that no longer knows what it was asked. -/
def withoutRecords (w : World) : World :=
  { w with heard := [], drawn := [], requests := [], sleeps := [], log := [] }

/-- Runs a program. -/
def run {α : Type} (w : World) (p : Program Questions α) : α × World :=
  Program.run (S := Questions) answer w p

end World

end CommandScript
