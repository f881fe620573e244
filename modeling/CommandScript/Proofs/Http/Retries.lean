import CommandScript.Proofs.Http.Attempts
import CommandScript.Proofs.Number.Positional
import CommandScript.World
import CommandScript.Yaml.Reader

/-!
# How often a request is made

A request is made again while the transport fails and an attempt is left. All requests are the same,
and between two of them there is a wait that is twice as long as the one before. The factor of a
wait is a power of two, which is a double up to the 1023rd; a wait after that is not reckoned, and
the request ends there although attempts are left.

## Main definitions

- `CommandScript.Http.course` — requests with waits between them
- `CommandScript.Http.Doubling` — waits each of which is twice the one before
- `CommandScript.Http.Made` — a request that is made so many times more
- `CommandScript.Http.Decides` — what comes of the last outcome
- `CommandScript.Http.Foretold` — outcomes of attempts that are given in advance

## Main results

- `CommandScript.Binary64.exists_two_pow` — powers of two as doubles
- `CommandScript.Http.goes_attempts` — the attempts at a request, with the waits between them
- `CommandScript.Http.repeated_exactly` — how often a request is made, for every sequence of
  outcomes
- `CommandScript.Http.not_always_repeated` — a request that ends with attempts left
-/

namespace CommandScript

namespace Binary64

variable {i : Nat}

theorem unitsPerOne_eq : unitsPerOne = hiddenBit * 2 ^ 1022 := by decide +kernel

theorem two_pow_mul (m e i : Nat) : 2 ^ i * (m * 2 ^ e) = m * 2 ^ (i + e) := by ring

theorem two_pow_mul_unitsPerOne (i : Nat) :
    2 ^ i * unitsPerOne = hiddenBit * 2 ^ (i + 1022) :=
  (congrArg (2 ^ i * ·) unitsPerOne_eq).trans (two_pow_mul hiddenBit 1022 i)

/-- A power of two is the least significand at some power. -/
theorem rankOf_two_pow (i : Nat) :
    rankOf (2 ^ i * unitsPerOne) 1 = (i + 1022) * hiddenBit + hiddenBit := by
  have positive : 0 < hiddenBit * 2 ^ (i + 1022) :=
    Nat.mul_pos hiddenBit_pos (Nat.two_pow_pos _)
  rw [two_pow_mul_unitsPerOne]
  refine rankOf_of_near Nat.one_pos ?_ (.inr (Nat.le_of_eq (Nat.mul_one _))) ?_ ?_
    (.inl even_hiddenBit)
  · rw [Nat.mul_assoc 2, Nat.mul_one]
    omega
  · rw [Nat.one_mul]
    exact Nat.le_add_right _ _
  · rw [Nat.one_mul]
    exact Nat.le_add_right _ _

/-- The first 1024 powers of two are doubles. -/
theorem exists_two_pow (few : i < 1024) :
    ∃ p, ofInt (Nat.pow 2 i) = .ok p ∧ p.place? = some (placeOfInt (2 ^ i)) := by
  have place : (i + 1022) * hiddenBit + hiddenBit = (i + 1023) * hiddenBit :=
    (Nat.succ_mul _ _).symm
  have finite : (i + 1022) * hiddenBit + hiddenBit < finiteCount := by
    rw [place, finiteCount]
    exact Nat.mul_lt_mul_of_pos_right (by omega) hiddenBit_pos
  let rank : Fin finiteCount := ⟨_, finite⟩
  have rounded : ofUnits false (2 ^ i * unitsPerOne) 1 = .finite false rank :=
    ofUnits_of_rankOf (rankOf_two_pow i)
  have magnitude : unitsOf rank = 2 ^ i * unitsPerOne := by
    rw [two_pow_mul_unitsPerOne]
    exact unitsOf_of_significand (by omega) (.inr (Nat.le_refl _))
  refine ⟨.finite false rank, ?_, ?_⟩
  · have positive : ¬((2 ^ i : Nat) : Int) < 0 := Int.not_lt.2 (Int.natCast_nonneg _)
    show (ofInt? ((2 ^ i : Nat) : Int)).elim _ _ = _
    rw [ofInt?, decide_eq_false positive, Int.natAbs_natCast, rounded]
    rfl
  · have units : signedUnits false rank = 2 ^ i * unitsPerOne := by
      rw [signedUnits, magnitude]
      push_cast
      rfl
    rw [place?, units]
    rfl

/-- The next one is none. -/
theorem ofInt_two_pow_last (last : i = 1024) : ofInt (Nat.pow 2 i) = .error .integerAsFloat := by
  subst last
  decide +kernel

end Binary64

namespace Http

variable {admits : (q : Effect) → q.Answer → Prop} {r : Request} {backoff : Binary64}
  {url : String} {left number : Nat} {outcomes : Nat → Reply} {f : Fault}
  {xs : List ((q : Effect) × q.Answer)} {x : Except Error Value} {ws : List Binary64}

/-- Whether a question is a note for the log. -/
def isNote : Effect → Bool
  | .log _ => true
  | _ => false

/-- The request that a question makes. -/
def request? : Effect → Option Request
  | .send r => some r
  | _ => none

/-- What is asked of the world in a run, other than notes for the log. -/
def steps (xs : List ((q : Effect) × q.Answer)) : List Effect :=
  (xs.map (·.1)).filter fun q => !isNote q

/-- The requests of a run, in order. -/
def requests (xs : List ((q : Effect) × q.Answer)) : List Request := (steps xs).filterMap request?

/-- Requests with waits between them. -/
def course (r : Request) : List Binary64 → List Effect
  | [] => [.send r]
  | w :: ws => .send r :: .sleep w :: course r ws

/-- Waits that are a number of seconds times the powers of two, from a given one on. -/
def Doubling (backoff : Binary64) (first : Nat) (ws : List Binary64) : Prop :=
  ∀ i w, ws[i]? = some w →
    ∃ p, p.place? = some (Binary64.placeOfInt (2 ^ (first + i))) ∧ w = backoff.mul p

/-- A request that is made once, and as many times more as there are waits. All requests are the
same, and each wait is between two of them. -/
structure Made (r : Request) (backoff : Binary64) (waits : Nat)
    (xs : List ((q : Effect) × q.Answer)) : Prop where
  requests : requests xs = List.replicate (waits + 1) r
  between : ∃ ws, ws.length = waits ∧ steps xs = course r ws ∧ Doubling backoff 0 ws

/-- A response is no fault of transport. -/
theorem not_passes_response (y : Response) : ¬(Reply.response y).Passes := by
  rintro ⟨f, same, -⟩
  cases same

theorem passes_fault_iff : (Reply.fault f).Passes ↔ f.faultClass = .transport := by
  constructor
  · rintro ⟨g, same, transport⟩
    cases same
    exact transport
  · exact fun transport => ⟨f, rfl, transport⟩

theorem doubling_nil (backoff : Binary64) (first : Nat) : Doubling backoff first [] := by
  intro i w there
  cases there

theorem wait_of_lt (backoff : Binary64) (early : number < 1024) :
    ∃ p, p.place? = some (Binary64.placeOfInt (2 ^ number)) ∧
      wait backoff number = .ok (backoff.mul p) := by
  obtain ⟨p, power, place⟩ := Binary64.exists_two_pow early
  refine ⟨p, place, ?_⟩
  rw [wait, power]
  rfl

theorem wait_last (last : number = 1024) :
    wait backoff number = .error (.conversion .integerAsFloat) := by
  rw [wait, Binary64.ofInt_two_pow_last last]
  rfl

theorem requests_course (r : Request) (ws : List Binary64) :
    (course r ws).filterMap request? = List.replicate (ws.length + 1) r := by
  induction ws with
  | nil => rfl
  | cons w ws ih =>
    show r :: (course r ws).filterMap request? = _
    rw [ih]
    rfl

/-- The request that is made in every attempt. -/
def requestOf (method url : String) (o : Options) (data : Value) : Request where
  method := String.ofList (Text.upper method.toList)
  url := url
  headers :=
    match body data with
    | .null => o.headers
    | _ => withContentType o.headers
  params := o.params
  content := body data
  timeout := o.timeout
  followsRedirects := true

/-- The outcomes of the attempts of a run are given in advance. -/
def Foretold (outcomes : Nat → Reply) (xs : List ((q : Effect) × q.Answer)) : Prop :=
  ∀ i y, (replies xs)[i]? = some y → y = outcomes i

section Requests

variable [Yaml.Loader]

/-- What comes of an outcome that is not followed by another attempt: a successful response gives
its body, any other response is an error with its status, its address and the start of its text, or
the fault that comes in place of the text, and a fault stays what it is. -/
def Decides (url : String) (x : Except Error Value) : Reply → Prop
  | .response y =>
    (200 ≤ y.status ∧ y.status < 300 →
      x = (Payload.read (.bytes y.content) y.contentType none).mapError .payload) ∧
    (¬(200 ≤ y.status ∧ y.status < 300) →
      (∀ text, y.text = .ok text →
        x = .error (.status y.status url (String.ofList (text.toList.take 200)))) ∧
      ∀ f, y.text = .error f → x = .error (.fault f))
  | .fault f => x = .error (.fault f)

theorem decides_outcome (url : String) (y : Reply) : Decides url (y.outcome url) y := by
  cases y with
  | fault f => rfl
  | response y =>
    refine ⟨fun success => if_pos success, fun failure => ⟨fun text made => ?_, fun f made => ?_⟩⟩
    · rw [Reply.outcome, valueOf, if_neg failure, made]
    · rw [Reply.outcome, valueOf, if_neg failure, made]

/-- How the attempts at a request go, the first of them having the given number: after each fault of
transport there is a wait and another attempt, until an outcome is something else, no attempt is
left, or the next wait cannot be reckoned. -/
structure Goes (r : Request) (backoff : Binary64) (left number : Nat) (outcomes : Nat → Reply)
    (xs : List ((q : Effect) × q.Answer)) (x : Except Error Value) (ws : List Binary64) :
    Prop where
  steps : steps xs = course r ws
  doubling : Doubling backoff number ws
  passes : ∀ i < ws.length, (outcomes i).Passes
  few : ws.length ≤ left
  reckoned : number + ws.length ≤ 1024
  ends : (¬(outcomes ws.length).Passes ∨ ws.length = left) ∧
      x = (outcomes ws.length).outcome r.url ∨
    (outcomes ws.length).Passes ∧ ws.length < left ∧ number + ws.length = 1024 ∧
      x = .error (.conversion .integerAsFloat)

/-- An attempt that is the last one, for its outcome or as none is left. -/
theorem Goes.last {y : Reply} (same : y = outcomes 0) (final : ¬y.Passes ∨ 0 = left)
    (reckoned : number ≤ 1024) :
    Goes r backoff left number outcomes [⟨.send r, y⟩] (y.outcome r.url) [] := by
  subst same
  exact ⟨rfl, doubling_nil _ _, fun i less => absurd less (Nat.not_lt_zero i), Nat.zero_le _,
    reckoned, .inl ⟨final, rfl⟩⟩

/-- An attempt after which the wait cannot be reckoned. -/
theorem Goes.edge {n : Log.Note} (passes : (outcomes 0).Passes) :
    Goes r backoff (left + 1) 1024 outcomes [⟨.send r, outcomes 0⟩, ⟨.log n, ()⟩]
      (.error (.conversion .integerAsFloat)) [] :=
  ⟨rfl, doubling_nil _ _, fun i less => absurd less (Nat.not_lt_zero i), Nat.zero_le _,
    Nat.le_refl _, .inr ⟨passes, Nat.succ_pos _, rfl, rfl⟩⟩

/-- An attempt that is followed by a wait and other attempts. -/
theorem Goes.again {w p : Binary64} {n : Log.Note} (first : (outcomes 0).Passes)
    (factor : p.place? = some (Binary64.placeOfInt (2 ^ number))) (wait : w = backoff.mul p)
    (rest : Goes r backoff left (number + 1) (fun i => outcomes (i + 1)) xs x ws) :
    Goes r backoff (left + 1) number outcomes
      (⟨.send r, outcomes 0⟩ :: ⟨.log n, ()⟩ :: ⟨.sleep w, ()⟩ :: xs) x (w :: ws) where
  steps := by
    show Effect.send r :: .sleep w :: Http.steps xs = _
    rw [rest.steps]
    rfl
  doubling := by
    rintro (_ | i) v there
    · cases there
      exact ⟨p, factor, wait⟩
    · obtain ⟨q, place, same⟩ := rest.doubling i v there
      refine ⟨q, ?_, same⟩
      rw [place, Nat.add_right_comm number 1 i]
      rfl
  passes := by
    rintro (_ | i) less
    · exact first
    · exact rest.passes i (Nat.lt_of_succ_lt_succ less)
  few := Nat.succ_le_succ rest.few
  reckoned := by
    have := rest.reckoned
    rw [List.length_cons]
    omega
  ends := by
    obtain ⟨final, same⟩ | ⟨passes, more, edge, same⟩ := rest.ends
    · exact .inl ⟨final.imp_right (congrArg Nat.succ), same⟩
    · refine .inr ⟨passes, Nat.succ_lt_succ more, ?_, same⟩
      rw [List.length_cons]
      omega

/-- **The attempts at a request**, the outcomes of which are given in advance. -/
theorem goes_attempts (r : Request) (backoff : Binary64) (left number : Nat)
    (reckoned : number ≤ 1024) :
    (attempts r backoff left number).Meets (S := Effects) admits fun xs x =>
      ∀ outcomes, Foretold outcomes xs → ∃ ws, Goes r backoff left number outcomes xs x ws := by
  induction left generalizing number with
  | zero =>
    unfold attempts
    refine meets_ask_bind.2 fun y _ => ?_
    have last (outcomes : Nat → Reply) (foretold : Foretold outcomes [⟨.send r, y⟩]) :
        ∃ ws, Goes r backoff 0 number outcomes [⟨.send r, y⟩] (y.outcome r.url) ws :=
      ⟨[], .last (foretold 0 y rfl) (.inr rfl) reckoned⟩
    cases y with
    | response y => exact last
    | fault f => exact last
  | succ left ih =>
    unfold attempts
    refine meets_ask_bind.2 fun y _ => ?_
    have last (final : ¬y.Passes) (outcomes : Nat → Reply)
        (foretold : Foretold outcomes [⟨.send r, y⟩]) :
        ∃ ws, Goes r backoff (left + 1) number outcomes [⟨.send r, y⟩] (y.outcome r.url) ws :=
      ⟨[], .last (foretold 0 y rfl) (.inl final) reckoned⟩
    cases y with
    | response y => exact last (not_passes_response y)
    | fault f =>
      dsimp only
      split
      · rename_i transport
        have passes : (Reply.fault f).Passes := passes_fault_iff.2 transport
        refine meets_ask_bind.2 fun _ _ => ?_
        by_cases early : number < 1024
        · obtain ⟨p, factor, seconds⟩ := wait_of_lt backoff early
          rw [seconds, afterWait]
          refine meets_ask_bind.2 fun _ _ => Program.Meets.imp (ih (number + 1) early) ?_
          intro xs x rest outcomes foretold
          have first : Reply.fault f = outcomes 0 := foretold 0 _ rfl
          obtain ⟨ws, goes⟩ := rest (fun i => outcomes (i + 1)) fun i y => foretold (i + 1) y
          rw [first] at passes ⊢
          exact ⟨_, goes.again passes factor rfl⟩
        · obtain rfl : number = 1024 := by omega
          rw [wait_last rfl, afterWait]
          intro outcomes foretold
          have first : Reply.fault f = outcomes 0 := foretold 0 _ rfl
          rw [first] at passes ⊢
          exact ⟨[], Goes.edge passes⟩
      · rename_i settled
        exact last (mt passes_fault_iff.1 settled)

theorem Goes.made (goes : Goes r backoff left 0 outcomes xs x ws) :
    Made r backoff ws.length xs where
  requests := by rw [Http.requests, goes.steps, requests_course]
  between := ⟨ws, rfl, goes.steps, goes.doubling⟩

/-- Where the first outcome that is no fault of transport is, there the attempts end. -/
theorem Goes.length_eq {k : Nat} (goes : Goes r backoff left 0 outcomes xs x ws) (few : k ≤ left)
    (passes : ∀ i < k, (outcomes i).Passes) (final : ¬(outcomes k).Passes) (early : k ≤ 1024) :
    ws.length = k := by
  obtain less | same | more := Nat.lt_trichotomy ws.length k
  · obtain ⟨stopped | all, -⟩ | ⟨-, -, edge, -⟩ := goes.ends
    · exact absurd (passes _ less) stopped
    · omega
    · omega
  · exact same
  · exact absurd (goes.passes k more) final

/-- Where all outcomes are faults of transport, the attempts end when none is left. -/
theorem Goes.length_eq_left (goes : Goes r backoff left 0 outcomes xs x ws)
    (passes : ∀ i ≤ left, (outcomes i).Passes) (early : left ≤ 1024) : ws.length = left := by
  obtain ⟨stopped | all, -⟩ | ⟨-, more, edge, -⟩ := goes.ends
  · exact absurd (passes _ goes.few) stopped
  · exact all
  · omega

/-- Where more attempts are left, they end when the next wait cannot be reckoned. -/
theorem Goes.unreckoned (goes : Goes r backoff left 0 outcomes xs x ws)
    (passes : ∀ i ≤ 1024, (outcomes i).Passes) (many : 1024 < left) :
    ws.length = 1024 ∧ x = .error (.conversion .integerAsFloat) := by
  have few : ws.length ≤ 1024 := by
    have := goes.reckoned
    omega
  obtain ⟨stopped | all, -⟩ | ⟨-, more, edge, same⟩ := goes.ends
  · exact absurd (passes _ few) stopped
  · omega
  · exact ⟨by omega, same⟩

theorem request_eq (method url : String) {config : List (Value × Value)} (data : Value)
    {o : Options} {n : Nat} (options : Options.ofEntries config = .ok o)
    (retries : o.retries = n) :
    request method url config data = attempts (requestOf method url o data) o.backoff n 0 := by
  rw [request, options]
  dsimp only
  rw [if_neg (by omega), retries, Int.toNat_natCast]
  rfl

theorem goes_request (method url : String) {config : List (Value × Value)} (data : Value)
    {o : Options} {n : Nat} (options : Options.ofEntries config = .ok o)
    (retries : o.retries = n) {σ : Type} (answer : σ → (q : Effect) → q.Answer × σ) (s : σ)
    (foretold : Foretold outcomes
      (Program.exchanges (S := Effects) answer s (request method url config data))) :
    ∃ ws, Goes (requestOf method url o data) o.backoff n 0 outcomes
      (Program.exchanges (S := Effects) answer s (request method url config data))
      (Program.run (S := Effects) answer s (request method url config data)).1 ws := by
  rw [request_eq method url data options retries] at foretold ⊢
  have all : (attempts (requestOf method url o data) o.backoff n 0).Meets (S := Effects)
      (fun _ _ => True) _ := goes_attempts (requestOf method url o data) o.backoff n 0 (by decide)
  exact Program.Meets.run all answer s (fun _ _ => trivial) outcomes foretold

/-- **A request is made exactly as often as it should be.** Take any request with options that allow
`n` further attempts, in any surroundings, with the outcomes of its attempts given in advance. Where
outcome `k` is the first that is no fault of transport, there are exactly `k + 1` requests, and it
decides, whatever the client makes of a response as a text and whatever documents are read as; where
all `n + 1` outcomes are faults of transport, there are exactly `n + 1` requests, and the last fault
comes of them. All requests are the same, and before each but the first there is a wait, which is
the given number of seconds times a power of two. This holds up to 1024 waits. Where more attempts
are left after 1025 faults of transport, the next wait cannot be reckoned, and that is what comes of
the request. -/
theorem repeated_exactly (method url : String) (config : List (Value × Value)) (data : Value)
    (o : Options) (n : Nat) (options : Options.ofEntries config = .ok o)
    (retries : o.retries = n) {σ : Type} (answer : σ → (q : Effect) → q.Answer × σ) (s : σ)
    (outcomes : Nat → Reply)
    (foretold : Foretold outcomes
      (Program.exchanges (S := Effects) answer s (request method url config data))) :
    let r := requestOf method url o data
    let xs := Program.exchanges (S := Effects) answer s (request method url config data)
    let x := (Program.run (S := Effects) answer s (request method url config data)).1
    (∀ k ≤ n, (∀ i < k, (outcomes i).Passes) → ¬(outcomes k).Passes → k ≤ 1024 →
        Made r o.backoff k xs ∧ Decides url x (outcomes k)) ∧
      ((∀ i ≤ n, (outcomes i).Passes) → n ≤ 1024 →
        Made r o.backoff n xs ∧ ∃ f, outcomes n = .fault f ∧ x = .error (.fault f)) ∧
      ((∀ i ≤ 1024, (outcomes i).Passes) → 1024 < n →
        Made r o.backoff 1024 xs ∧ x = .error (.conversion .integerAsFloat)) := by
  intro r xs x
  obtain ⟨ws, goes⟩ : ∃ ws, Goes r o.backoff n 0 outcomes xs x ws :=
    goes_request method url data options retries answer s foretold
  refine ⟨fun k few passes final early => ?_, fun passes early => ?_, fun passes many => ?_⟩
  · obtain rfl : ws.length = k := goes.length_eq few passes final early
    obtain ⟨-, same⟩ | ⟨again, -⟩ := goes.ends
    · exact ⟨goes.made, same ▸ decides_outcome url _⟩
    · exact absurd again final
  · obtain rfl : ws.length = n := goes.length_eq_left passes early
    obtain ⟨f, fault, -⟩ := passes _ (Nat.le_refl _)
    obtain ⟨-, same⟩ | ⟨-, more, -⟩ := goes.ends
    · exact ⟨goes.made, f, fault, by rw [same, fault]; rfl⟩
    · exact absurd more (Nat.lt_irrefl _)
  · obtain ⟨count, same⟩ := goes.unreckoned passes many
    exact ⟨count ▸ goes.made, same⟩

end Requests

/-- The outcomes of attempts in a world are the replies that were laid down, and then faults. -/
theorem foretold_world {α : Type} (w : World) (command : Option (Option String))
    (p : Program Effects α) :
    Foretold (fun i => (w.replies[i]?).getD (.fault World.unreachable))
      (Program.exchanges (S := Effects) (fun w q => w.answerEffect command q) w p) := by
  induction p generalizing w with
  | done a => exact fun i y => nofun
  | ask q next ih =>
    cases q with
    | send r =>
      rintro (_ | i) y there
      · cases there
        show w.replies.head?.getD _ = _
        rw [List.head?_eq_getElem?]
      · have later := ih _ _ i y there
        rw [later]
        show ((w.replies.tail)[i]?).getD _ = _
        rw [List.getElem?_tail]
    | _ => exact ih _ _

/-- A request whose transport fails twice before there is a response. -/
theorem repeated_exactly_twice :
    let o : Options := ⟨ratio 5 1, 2, ratio 1 5, [], []⟩
    let f : Reply := .fault World.unreachable
    let w := { World.empty .null with replies := [f, f, .response ⟨404, [], none, .ok ""⟩] }
    let answer := fun (w : World) (q : Effect) => w.answerEffect none q
    let xs := Program.exchanges (S := Effects) answer w (request "get" "a" [] .null)
    let x := (Program.run (S := Effects) answer w (request "get" "a" [] .null)).1
    Options.ofEntries [] = .ok o ∧ o.retries = (2 : Nat) ∧
      Foretold (fun i => (w.replies[i]?).getD f) xs ∧
      Made (requestOf "get" "a" o .null) o.backoff 2 xs ∧
      x = .error (.status 404 "a" "") := by
  intro o f w answer xs x
  have foretold : Foretold (fun i => (w.replies[i]?).getD f) xs := foretold_world w none _
  obtain ⟨settled, -, -⟩ := repeated_exactly "get" "a" [] .null o 2 options_nil rfl answer w
    (fun i => (w.replies[i]?).getD f) foretold
  have passes (i : Nat) (less : i < 2) : ((w.replies[i]?).getD f).Passes := by
    obtain rfl | rfl : i = 0 ∨ i = 1 := by omega
    · exact ⟨_, rfl, by decide⟩
    · exact ⟨_, rfl, by decide⟩
  obtain ⟨made, decides⟩ := settled 2 (Nat.le_refl _) passes (not_passes_response _) (by decide)
  exact ⟨options_nil, rfl, foretold, made, (decides.2 (by decide)).1 "" rfl⟩

/-- **Not every number of attempts is made**: the wait after attempt 1024 cannot be reckoned. -/
theorem not_always_repeated :
    ¬∀ (config : List (Value × Value)) (o : Options) (n : Nat),
      Options.ofEntries config = .ok o → o.retries = n →
      ∀ (outcomes : Nat → Reply) (w : World),
        let answer := fun (w : World) (q : Effect) => w.answerEffect none q
        let p := request "GET" "a" config .null
        Foretold outcomes (Program.exchanges (S := Effects) answer w p) →
        (∀ i ≤ n, (outcomes i).Passes) →
        ∃ f, (Program.run (S := Effects) answer w p).1 = .error (.fault f) := by
  intro always
  let config : List (Value × Value) := [(.text "retries", .int 1025)]
  let o : Options := ⟨ratio 5 1, 1025, ratio 1 5, [], []⟩
  have options : Options.ofEntries config = .ok o := by
    simp only [config, Options.ofEntries, Value.lookupText?, Value.lookup?_cons_text, Value.text?]
    rfl
  have passes (i : Nat) : ((fun _ => .fault World.unreachable : Nat → Reply) i).Passes :=
    ⟨_, rfl, by decide⟩
  have foretold := foretold_world (World.empty .null) none (request "GET" "a" config .null)
  obtain ⟨ws, goes⟩ := goes_request "GET" "a" .null options (n := 1025) rfl _ _ foretold
  obtain ⟨f, failed⟩ := always config o 1025 options rfl _ (World.empty .null) foretold
    fun i _ => passes i
  obtain ⟨-, overflows⟩ := goes.unreckoned (fun i _ => passes i) (by decide)
  cases failed.symm.trans overflows

end Http

end CommandScript
