import SceneBindings.Validation.Checked

/-!
Findings that do not stop an operation, and everything else that an operation says while it runs.
-/

namespace SceneBindings

inductive Diagnostic.Kind where
  | precondition
  | duplicate
  | lookupMiss
  | writeConflict
  | malformed
  | missingReference
  deriving DecidableEq, Repr

inductive Diagnostic.Severity where
  | info
  | warning
  | error
  deriving DecidableEq, Repr

/-- A finding about a subject: a canonical path or the name of an element. -/
structure Diagnostic where
  kind : Diagnostic.Kind
  severity : Diagnostic.Severity
  message : String
  subject : String
  deriving DecidableEq, Repr

namespace Diagnostic

def Kind.all : List Kind :=
  [precondition, duplicate, lookupMiss, writeConflict, malformed, missingReference]

def Kind.label : Kind → String
  | precondition => "precondition"
  | duplicate => "duplicate"
  | lookupMiss => "lookup_miss"
  | writeConflict => "write_conflict"
  | malformed => "malformed"
  | missingReference => "missing_reference"

def Severity.all : List Severity := [info, warning, error]

def Severity.label : Severity → String
  | info => "info"
  | warning => "warning"
  | error => "error"

def Severity.icon : Severity → String
  | info => "✅"
  | warning => "⚠️ "
  | error => "❌"

def warn (kind : Kind) (message subject : String) : Diagnostic := ⟨kind, .warning, message, subject⟩

def fault (kind : Kind) (message subject : String) : Diagnostic := ⟨kind, .error, message, subject⟩

def format (d : Diagnostic) : String :=
  let head := d.severity.icon ++ " " ++ d.message
  if d.subject.isEmpty then head else head ++ " [" ++ d.subject ++ "]"

/-- One of a closed set of labels. -/
def readLabel {α : Type} (all : List α) (label : α → String) : Value → Checked α
  | .text s => Value.orElse (all.find? fun a => label a == s) .notInEnum
  | _ => .fail .notInEnum

def read [Validator] (fields : List (String × Value)) : Checked Diagnostic :=
  mk <$> required fields "kind" (readLabel Kind.all Kind.label)
    <*> optional fields "severity" .warning (readLabel Severity.all Severity.label)
    <*> required fields "message" Value.readNonempty
    <*> optional fields "subject" "" Validator.readString

end Diagnostic

/-- One thing that an operation says. -/
inductive Event where
  /-- A finding, which is recorded. -/
  | found (d : Diagnostic)
  /-- A remark, shown only to a listener that echoes. -/
  | remark (text : String)
  /-- A line that is always shown. -/
  | line (text : String)
  /-- A question, shown without a line break. -/
  | ask (text : String)
  deriving DecidableEq, Repr

/-- The findings recorded so far and the text shown so far. -/
structure Reporter where
  echo : Bool
  findings : List Diagnostic
  shown : String

namespace Reporter

def new (echo : Bool) : Reporter := ⟨echo, [], ""⟩

def hear (r : Reporter) : Event → Reporter
  | .found d =>
    { r with
      findings := r.findings ++ [d]
      shown := if r.echo then r.shown ++ d.format ++ "\n" else r.shown }
  | .remark text => if r.echo then { r with shown := r.shown ++ "  " ++ text ++ "\n" } else r
  | .line text => { r with shown := r.shown ++ text ++ "\n" }
  | .ask text => { r with shown := r.shown ++ text }

def hearAll (r : Reporter) (events : List Event) : Reporter := events.foldl hear r

/-- The number of findings of each kind that occurs, in the order of first occurrence. -/
def summary (r : Reporter) : List (Diagnostic.Kind × Nat) :=
  (r.findings.map (·.kind)).eraseDups.map fun k => (k, r.findings.countP fun d => d.kind == k)

end Reporter

end SceneBindings
