import CommandScript.Effect
import CommandScript.Payload

/-!
# Making requests

A request with its options, made again after faults of transport, each time after twice the wait.
The body of a response is read by its content type; a response that is no success is an error.

## Main definitions

- `CommandScript.Http.Error` — why a request gives no value
- `CommandScript.Http.Options` — timeout, attempts, waits, header fields and parameters
- `CommandScript.Http.attempts` — the attempts at a request
- `CommandScript.Http.request` — the value that a request gives
-/

namespace CommandScript.Http

/-- Why a request gives no value. -/
inductive Error where
  /-- A response that is no success, with the start of its text. -/
  | status (status : Int) (url start : String)
  /-- What came in place of a response, or of the text of one that is no success. -/
  | fault (f : Fault)
  | conversion (e : ConversionError)
  /-- The name of a type whose values have no items. -/
  | notIterable (typeName : String)
  /-- A list of options whose item at a position is no pair. -/
  | notPair (position length : Nat)
  | notSequence (position : Nat)
  | unfitKey (e : UnfitKey)
  | payload (e : Payload.ReadError)
  deriving DecidableEq, Repr

namespace Error

/-- The word for the kind of an error. -/
def kind : Error → String
  | .status .. => "HttpError"
  | .fault f => f.kind
  | .conversion e => e.kind
  | .notIterable _ => "TypeError"
  | .notPair .. => "ValueError"
  | .notSequence _ => "TypeError"
  | .unfitKey _ => "TypeError"
  | .payload e => e.kind

/-- The wording of an error. -/
def message : Error → String
  | .status n url start =>
    "HTTP " ++ Numeral.intTextUnlimited n ++ " for " ++ url ++ ": " ++ start
  | .fault f => f.message
  | .conversion e => e.message
  | .notIterable t => "'" ++ t ++ "' object is not iterable"
  | .notPair i n =>
    "dictionary update sequence element #" ++ toString i ++ " has length " ++ toString n ++
      "; 2 is required"
  | .notSequence i => "cannot convert dictionary update sequence element #" ++ toString i ++
      " to a sequence"
  | .unfitKey e => e.message
  | .payload e => e.message

/-- Whether an error is the failure of an exchange, and not a fault of the one who asks. -/
def isExchange : Error → Bool
  | .status .. => true
  | .fault f => f.faultClass ≠ .refused
  | _ => false

end Error

/-- The options of a request. -/
structure Options where
  timeout : Binary64
  /-- How often a request is made again at most; a negative number stands for not at all. -/
  retries : Int
  backoff : Binary64
  headers : List (Value × Value)
  params : List (Value × Value)

/-- The number `n / d`, rounded to a double. -/
def ratio (n d : Nat) : Binary64 := .ofUnits false (n * Binary64.unitsPerOne) d

/-- The items of a value that has some, where it is no mapping. -/
def items? : Value → Option (List Value)
  | .list xs => some xs
  | .tuple xs => some xs
  | .set xs => some xs
  | .frozenSet xs => some xs
  | .text s => some (s.toList.map fun c => .text (String.ofList [c]))
  | .derivedText s => some (s.toList.map fun c => .text (String.ofList [c]))
  | .bytes bs => some (bs.map fun b => .int b.toNat)
  | .buffer bs => some (bs.map fun b => .int b.toNat)
  | _ => none

/-- A mapping from a list of pairs, the first of which has the given position. -/
def pairs (position : Nat) : List Value → Except Error (List (Value × Value))
  | [] => .ok []
  | v :: vs =>
    let parts := (v.entries?.map fun es => es.map (·.1)).or (items? v)
    match parts with
    | some [k, w] =>
      match k.checkKey with
      | .ok _ => (pairs (position + 1) vs).map ((k, w) :: ·)
      | .error e => .error (.unfitKey e)
    | some xs => .error (.notPair position xs.length)
    | none => .error (.notSequence position)

/-- A value as a mapping. -/
def mappingOf (v : Value) : Except Error (List (Value × Value)) :=
  match v.entries?, items? v with
  | some es, _ => .ok es
  | none, some xs => (pairs 0 xs).map Value.ofEntries
  | none, none => .error (.notIterable v.fullTypeName)

/-- The options that a mapping gives, with the usual ones for those that it leaves out. -/
def Options.ofEntries (config : List (Value × Value)) : Except Error Options := do
  let option (name : String) (default : Value) : Value :=
    (Value.lookupText? config name).getD default
  let timeout ← ((option "timeout" (.float (ratio 5 1))).toFloat).mapError .conversion
  let retries ← ((option "retries" (.int 2)).toInt).mapError .conversion
  let backoff ← ((option "backoff" (.float (ratio 1 5))).toFloat).mapError .conversion
  let headers ← mappingOf (option "headers" (.map []))
  let params ← mappingOf (option "params" (.map []))
  return ⟨timeout, retries, backoff, headers, params⟩

/-- The body of a request: texts are sent as bytes. -/
def body (data : Value) : Value :=
  match data.text? with
  | some s => .bytes (Text.Utf8.encode s.toList)
  | none => data

/-- Header fields for a request with a body, whose type is plain text unless it is given. -/
def withContentType (headers : List (Value × Value)) : List (Value × Value) :=
  let name := Value.text "Content-Type"
  if (Value.lookup? headers name).isSome then headers
  else Value.insertEntry headers name (.text "text/plain; charset=utf-8")

section Requests

variable [Yaml.Loader]

/-- The value of a response. One that is no success is reported with the start of its text, or, if
the client makes no text of it, by what comes in place of that. -/
def valueOf (url : String) (r : Response) : Except Error Value :=
  if 200 ≤ r.status ∧ r.status < 300 then
    (Payload.read (.bytes r.content) r.contentType none).mapError .payload
  else
    match r.text with
    | .ok s => .error (.status r.status url (String.ofList (s.toList.take 200)))
    | .error f => .error (.fault f)

/-- The note about an attempt that is followed by another. -/
def retryNote (r : Request) (f : Fault) (number : Nat) : Log.Note where
  level := .debug
  source := .http
  message := r.method ++ " " ++ r.url ++ " failed (" ++ f.message ++ "), retry " ++ toString number

/-- The wait after attempt `number`, the first having number zero. -/
def wait (backoff : Binary64) (number : Nat) : Except Error Binary64 :=
  ((Binary64.ofInt (Nat.pow 2 number)).map backoff.mul).mapError .conversion

/-- Asks a question to the world. -/
def ask (q : Effect) : Program Effects q.Answer := Program.query (S := Effects) q

/-- Goes on after a wait, unless it is too long to be reckoned. -/
def afterWait (seconds : Except Error Binary64) (next : Program Effects (Except Error Value)) :
    Program Effects (Except Error Value) :=
  match seconds with
  | .error e => return .error e
  | .ok seconds => do
    ask (.sleep seconds)
    next

/-- The attempts at a request: one with the given number, and up to `left` more after faults of
transport. -/
def attempts (r : Request) (backoff : Binary64) : (left number : Nat) →
    Program Effects (Except Error Value)
  | 0, _ => do
    match ← ask (.send r) with
    | .response response => return valueOf r.url response
    | .fault f => return .error (.fault f)
  | left + 1, number => do
    match ← ask (.send r) with
    | .response response => return valueOf r.url response
    | .fault f =>
      if f.faultClass = .transport then do
        ask (.log (retryNote r f (number + 1)))
        afterWait (wait backoff number) (attempts r backoff left (number + 1))
      else return .error (.fault f)

/-- The value that a request gives. Less than no further attempts mean none at all, and no value. -/
def request (method url : String) (config : List (Value × Value)) (data : Value) :
    Program Effects (Except Error Value) :=
  match Options.ofEntries config with
  | .error e => return .error e
  | .ok o =>
    let content := body data
    -- Only a request that carries something says of what type it is.
    let headers := match content with
      | .null => o.headers
      | _ => withContentType o.headers
    let r : Request :=
      { method := String.ofList (Text.upper method.toList)
        url := url
        headers := headers
        params := o.params
        content := content
        timeout := o.timeout
        followsRedirects := true }
    if o.retries < 0 then return .ok .null
    else attempts r o.backoff o.retries.toNat 0

/-- The value at an address. -/
def get (url : String) (config : List (Value × Value)) :
    Program Effects (Except Error Value) :=
  request "GET" url config .null

/-- The value that comes of sending data to an address. -/
def post (url : String) (config : List (Value × Value)) (data : Value) :
    Program Effects (Except Error Value) :=
  request "POST" url config data

end Requests

end CommandScript.Http
