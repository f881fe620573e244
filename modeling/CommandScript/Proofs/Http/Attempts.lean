import CommandScript.Proofs.Answered
import CommandScript.Proofs.Store

/-!
# Attempts at a request

A request is made again after faults of transport, and its value is that of the last reply. Which
replies there are says what comes of the request, and how often it was made.

## Main definitions

- `CommandScript.Http.Reply.outcome` — what a reply makes of a request
- `CommandScript.Http.Reply.Passes` — a reply after which a request may be made again
- `CommandScript.Http.Attempted` — what comes of a request for the replies to its attempts

## Main results

- `CommandScript.Http.meets_attempts` — the attempts at a request
- `CommandScript.Http.meets_request` — a request with its options
- `CommandScript.Http.meets_get`, `CommandScript.Http.meets_post` — requests with the usual options
-/

namespace CommandScript.Http

variable {admits : (q : Effect) → q.Answer → Prop}

/-- A fault of transport: the request may be made again. -/
def Reply.Passes (r : Reply) : Prop := ∃ f, r = .fault f ∧ f.faultClass = .transport

theorem meets_ask_bind {α : Type} {q : Effect} {f : q.Answer → Program Effects α}
    {post : List ((q : Effect) × q.Answer) → α → Prop} :
    (ask q >>= f).Meets (S := Effects) admits post ↔
      ∀ r, admits q r → (f r).Meets (S := Effects) admits fun xs => post (⟨q, r⟩ :: xs) := Iff.rfl

/-- The waits after the first two attempts can be reckoned. -/
theorem exists_wait (backoff : Binary64) {n : Nat} (early : n < 2) :
    ∃ seconds, wait backoff n = .ok seconds := by
  have fits : (Binary64.ofInt (Nat.pow 2 n)).isOk = true := by
    obtain rfl | rfl : n = 0 ∨ n = 1 := by omega
    · decide +kernel
    · decide +kernel
  unfold wait
  cases power : Binary64.ofInt (Nat.pow 2 n) with
  | ok x => exact ⟨backoff.mul x, rfl⟩
  | error e =>
    rw [power] at fits
    cases fits

theorem options_nil : Options.ofEntries [] = .ok ⟨ratio 5 1, 2, ratio 1 5, [], []⟩ := rfl

theorem options_headers (headers : List (Value × Value)) :
    Options.ofEntries [(.text "headers", .map headers)] =
      .ok ⟨ratio 5 1, 2, ratio 1 5, headers, []⟩ := by
  simp only [Options.ofEntries, Value.lookupText?, Value.lookup?_cons_text, Value.text?]
  rfl

section Requests

variable [Yaml.Loader]

/-- What a reply makes of a request, if it is the last one. -/
def Reply.outcome (url : String) : Reply → Except Error Value
  | .response r => valueOf url r
  | .fault f => .error (.fault f)

/-- What comes of a request that is made once and up to `left` times more: all replies but the last
are faults of transport, the last one settles the outcome, and if it is such a fault as well then no
attempt was left. -/
def Attempted (url : String) (left : Nat) (rs : List Reply) (x : Except Error Value) : Prop :=
  ∃ before last, rs = before ++ [last] ∧ (∀ r ∈ before, r.Passes) ∧ before.length ≤ left ∧
    (last.Passes → before.length = left) ∧ x = last.outcome url

theorem attempted_last {url : String} {left : Nat} {last : Reply}
    (settled : last.Passes → left = 0) : Attempted url left [last] (last.outcome url) :=
  ⟨[], last, rfl, List.forall_mem_nil _, Nat.zero_le _, fun passes => (settled passes).symm, rfl⟩

theorem Attempted.again {url : String} {left : Nat} {rs : List Reply} {x : Except Error Value}
    {f : Fault} (transport : f.faultClass = .transport) (rest : Attempted url left rs x) :
    Attempted url (left + 1) (.fault f :: rs) x := by
  obtain ⟨before, last, rfl, passes, few, all, settles⟩ := rest
  refine ⟨.fault f :: before, last, rfl, List.forall_mem_cons.2 ⟨⟨f, rfl, transport⟩, passes⟩,
    Nat.succ_le_succ few, fun again => congrArg Nat.succ (all again), settles⟩

/-- **The attempts at a request** come to what the last reply says, as far as the waits between them
can be reckoned. -/
theorem meets_attempts (r : Request) (backoff : Binary64) (left number : Nat)
    (waits : ∀ n, number ≤ n → n < number + left → ∃ seconds, wait backoff n = .ok seconds) :
    (attempts r backoff left number).Meets (S := Effects) admits fun xs x =>
      Attempted r.url left (replies xs) x := by
  induction left generalizing number with
  | zero =>
    unfold attempts
    refine meets_ask_bind.2 fun reply _ => ?_
    have last : Attempted r.url 0 [reply] (reply.outcome r.url) := attempted_last fun _ => rfl
    cases reply with
    | response response => exact last
    | fault f => exact last
  | succ left ih =>
    unfold attempts
    refine meets_ask_bind.2 fun reply _ => ?_
    cases reply with
    | response response =>
      have last : Attempted r.url (left + 1) [.response response] (valueOf r.url response) :=
        attempted_last fun ⟨f, same, _⟩ => nomatch same
      exact last
    | fault f =>
      dsimp only
      split
      · rename_i transport
        obtain ⟨seconds, reckoned⟩ := waits number (Nat.le_refl _) (by omega)
        have more := ih (number + 1) fun n low high => waits n (by omega) (by omega)
        refine meets_ask_bind.2 fun _ _ => ?_
        rw [reckoned, afterWait]
        refine meets_ask_bind.2 fun _ _ => more.imp fun xs x rest => rest.again transport
      · rename_i settled
        have last : Attempted r.url (left + 1) [.fault f] (.error (.fault f)) := by
          refine attempted_last fun ⟨g, same, transport⟩ => ?_
          cases same
          exact absurd transport settled
        exact last

/-- What comes of a request with its options. -/
theorem meets_request (method url : String) {config : List (Value × Value)} (data : Value)
    {o : Options} (options : Options.ofEntries config = .ok o) (some : 0 ≤ o.retries)
    (waits : ∀ n < o.retries.toNat, ∃ seconds, wait o.backoff n = .ok seconds) :
    (request method url config data).Meets (S := Effects) admits fun xs x =>
      Attempted url o.retries.toNat (replies xs) x := by
  unfold request
  rw [options]
  dsimp only
  rw [if_neg (Int.not_lt.2 some)]
  exact meets_attempts _ _ _ _ fun n _ high => waits n (by omega)

/-- Fetching what is at an address takes up to three attempts. -/
theorem meets_get (url : String) :
    (get url []).Meets (S := Effects) admits fun xs x => Attempted url 2 (replies xs) x :=
  meets_request "GET" url .null options_nil (by decide) fun _ early => exists_wait _ early

/-- So does sending data there. -/
theorem meets_post (url : String) (headers : List (Value × Value)) (data : Value) :
    (post url [(.text "headers", .map headers)] data).Meets (S := Effects) admits fun xs x =>
      Attempted url 2 (replies xs) x :=
  meets_request "POST" url data (options_headers headers) (show (0 : Int) ≤ 2 by decide)
    fun _ early => exists_wait _ early

end Requests

end CommandScript.Http
