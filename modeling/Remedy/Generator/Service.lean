import Remedy.Generator.Retry
import Remedy.Settings.Basic
import Remedy.Settings.Check

/-!
Services that generate text: one in the network that is paid with a key, and one of one's own. Each
has its address, its form of request, and its place for the completion in a response. Answers are
not trusted to have the form that they should have.
-/

namespace Remedy

open Text (Point points)

inductive Service where
  | gemini (key model : Value)
  | ollama (model : Value) (address : String)
  deriving Repr

namespace Service

def name : Service → String
  | gemini .. => "gemini"
  | ollama .. => "ollama"

def url : Service → String
  | gemini _ model =>
    "https://generativelanguage.googleapis.com/v1beta/models/" ++ model.shown ++
      ":generateContent"
  | ollama _ address => address ++ "/api/generate"

/-- What is posted for a prompt. It is assumed that a request can be made of this and the address: a
model or an address from a settings file may be anything. -/
def payload (prompt : String) : Service → Value
  | gemini .. =>
    let part : Value := .map [(.str "text", .str prompt)]
    .map [(.str "contents", .list [.map [(.str "parts", .list [part])]])]
  | ollama model _ =>
    .map [(.str "model", model), (.str "prompt", .str prompt), (.str "stream", .bool false)]

def parameters : Service → Option Value
  | gemini key _ => some (.map [(.str "key", key)])
  | ollama .. => none

def callRecord (prompt : String) (service : Service) : Event :=
  let size := " (" ++ toString prompt.length ++ " chars)"
  match service with
  | gemini _ model => .debug ("Calling Gemini " ++ model.shown ++ size)
  | ollama model address => .debug ("Calling Ollama " ++ model.shown ++ " at " ++ address ++ size)

/-- Whether a document counts as true: it is not null, false, zero or empty. -/
def truthy : Reply → Bool
  | .null => false
  | .bool b => b
  | .int n => n ≠ 0
  | .float x => !x.isZero
  | .str s => !s.isEmpty
  | .arr items => !items.isEmpty
  | .obj members => !members.isEmpty

/-- The member of a document under a name, or another document if there is none. -/
def memberOr (reply : Reply) (name : String) (missing : Reply) : Except TypeFault Reply :=
  match reply with
  | .obj members => .ok ((members.lookup (points name)).getD missing)
  | _ => .error (.noAttribute reply.typeName "get")

def firstItem : Reply → Except TypeFault Reply
  | .arr (item :: _) => .ok item
  | .str (p :: _) => .ok (.str [p])
  | .str [] => .error (.missingKey "0")
  | .arr [] => .error (.missingKey "0")
  | .obj _ => .error (.missingKey "0")
  | reply => .error (.notSubscriptable reply.typeName)

/-- The members that a loop over a document visits: the items of an array, the code points of a
text, the names in an object. -/
def visited : Reply → Except TypeFault (List Reply)
  | .arr items => .ok items
  | .str s => .ok (s.map fun p => .str [p])
  | .obj members => .ok (members.map fun member => .str member.1)
  | reply => .error (.notIterable reply.typeName)

def partText (part : Reply) : Except TypeFault Reply :=
  (memberOr part "text" (.str [])).map fun text => if truthy text then text else .str []

def joinFrom (index : Nat) : List Reply → Except TypeFault (List Point)
  | [] => .ok []
  | .str s :: rest => (joinFrom (index + 1) rest).map (s ++ ·)
  | reply :: _ => .error (.joinItem index reply.typeName)

def candidateText (candidates : Reply) : Except TypeFault (List Point) := do
  let first ← firstItem candidates
  let content ← memberOr first "content" (.obj [])
  let parts ← memberOr content "parts" (.arr [])
  let members ← visited parts
  let texts ← members.mapM partText
  joinFrom 0 texts

def nonempty (text : List Point) : Option (List Point) :=
  if text = [] then none else some text

/-- The completion in the members of a response, and what is recorded about it. -/
def completion (members : Reply.Members) :
    Service → Journal × Except GeneratorError (Option (List Point))
  | gemini .. =>
    let candidates := (members.lookup (points "candidates")).getD .null
    if truthy candidates then
      match candidateText candidates with
      | .error fault => ([], .error ⟨"gemini", .malformedCandidate fault⟩)
      | .ok text => ([], .ok (nonempty text))
    else ([.debug "Gemini response had no candidates"], .ok none)
  | ollama .. =>
    match members.lookup (points "response") with
    | some (.str text) => ([], .ok (nonempty text))
    | _ => ([], .ok none)

end Service

structure Client where
  service : Service
  policy : RetryPolicy
  deriving Repr

namespace Client

def request (client : Client) (prompt : String) : Request :=
  ⟨client.service.url, client.service.payload prompt, client.service.parameters,
    client.policy.timeout⟩

section Prompts

variable [Interpreter] {σ : Type}

def submit (client : Client) (transport : Transport σ) (prompt : String) (state : σ) :
    Step σ (Option (List Point)) :=
  ((Retry.post transport client.policy client.service.name (client.request prompt) state).andThen
    fun members state =>
      match client.service.completion members with
      | (journal, .ok completion) => (Step.done state completion).after journal
      | (journal, .error error) =>
        (Step.halted state (.fault (.generator error))).after journal).after
    [client.service.callRecord prompt]

def generator (client : Client) (transport : Transport σ) : Generator σ := fun prompt state =>
  (client.submit transport prompt state).map (·.map Text.legible)

end Prompts

/-- The client for a service. It is assumed that a connection can be prepared for it: what can go
wrong there comes from the surroundings, not from settings. -/
def withPolicy (settings : Settings) (service : Except Fault Service) : Except Fault Client :=
  match Retry.granted (settings .maxRetries) with
  | .error fault => .error (.type fault)
  | .ok retries =>
    service.map fun s => ⟨s, ⟨settings .requestTimeout, retries, settings .retryDelay⟩⟩

def trimSlashes (address : String) : String :=
  String.ofList (Text.trimRight (· == '/') address.toList)

def ollama (settings : Settings) : Except Fault Service :=
  match settings .ollamaUrl with
  | .str address => .ok (.ollama (settings .ollamaModel) (trimSlashes address))
  | v => .error (.type (.noAttribute v.typeName "rstrip"))

def ofSettings (settings : Settings) : Except Fault Client :=
  match Settings.lowered (settings .provider) with
  | .error fault => .error fault
  | .ok name =>
    if name = "gemini" then
      if (settings .geminiKey).truthy then
        withPolicy settings (.ok (.gemini (settings .geminiKey) (settings .geminiModel)))
      else .error (.settings .keyRequired)
    else if name = "ollama" || name = "local" then withPolicy settings (ollama settings)
    else .error (.settings (.unknownProvider (settings .provider).shown))

end Client

end Remedy
