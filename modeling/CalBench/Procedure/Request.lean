/-
Requests to start, stop and reset actions.

A `TriggerRequest` names an action by the short name of its section and its own name; `normalized`
puts both in lower case, the form in which actions are looked up. It is answered by a `TriggerReply`,
which repeats the request and says either `ok` or what is wrong. A granted start is identified by a
`RunTicket`, which is sent downstream and comes back when the run is complete.
-/
import CalBench.Json.Record
import CalBench.Text.Blank
import CalBench.Text.Case

namespace CalBench

open Json

/-- what a request asks for -/
inductive Trigger
  | start
  | stop
  /-- end the run and forget it -/
  | reset
deriving DecidableEq, Repr

namespace Trigger

def name : Trigger → String
  | .start => "start"
  | .stop => "stop"
  | .reset => "reset"

def ofName? (s : String) : Option Trigger := [start, stop, reset].find? fun t => t.name == s

/-- the trigger a text spells, in any letter case and with blanks around it -/
def ofSpelling? (s : String) : Option Trigger := ofName? (Text.lower (Text.trim s))

instance : Codec Trigger := ⟨fun t => .str t.name, fun j => j.choice?.bind ofName?⟩

end Trigger

/-- a request for an action -/
structure TriggerRequest where
  kind : Trigger
  sessionId : Option String := none
  /-- of the run to start; a fresh one if absent -/
  runId : Option String := none
  /-- short name of the section -/
  sectionName : String
  action : String
deriving DecidableEq, Repr

/-- the request with its names in lower case -/
def TriggerRequest.normalized (r : TriggerRequest) : TriggerRequest :=
  { r with sectionName := Text.lower r.sectionName, action := Text.lower r.action }

/-- the answer to a request: `none` if it was carried out, else what is wrong -/
structure TriggerReply where
  request : TriggerRequest
  error : Option String := none
deriving DecidableEq, Repr

namespace TriggerReply

def ok (r : TriggerRequest) : TriggerReply := ⟨r, none⟩

def failed (r : TriggerRequest) (error : String) : TriggerReply := ⟨r, some error⟩

def isOk (r : TriggerReply) : Bool := r.error.isNone

end TriggerReply

/-- the identity of a run -/
structure RunTicket where
  sessionId : String
  runId : String
  sectionName : String
  action : String
deriving DecidableEq, Repr

/-! ## Documents -/

def TriggerRequest.fields (r : TriggerRequest) : List (Option (String × Json)) := [
  field "type" r.kind,
  fieldIfSome "sessionId" r.sessionId,
  fieldIfSome "runId" r.runId,
  field "section" r.sectionName,
  field "action" r.action]

instance : Codec TriggerRequest where
  encode r := record r.fields
  decode j := do
    let m ← members? ["type", "sessionId", "runId", "section", "action"] j
    return {
      kind := ← m.required ["type"]
      sessionId := ← m.optional ["sessionId"]
      runId := ← m.optional ["runId"]
      sectionName := ← m.required ["section"]
      action := ← m.required ["action"] }

def TriggerReply.document (r : TriggerReply) : Json :=
  record (r.request.fields ++ [
    if r.isOk then field "message" "ok" else none,
    fieldIfSome "error" r.error])

instance : Codec RunTicket where
  encode t := record [
    field "sessionId" t.sessionId,
    field "runId" t.runId,
    field "section" t.sectionName,
    field "action" t.action]
  decode j := do
    let m ← members? ["sessionId", "runId", "section", "action"] j
    return {
      sessionId := ← m.required ["sessionId"]
      runId := ← m.required ["runId"]
      sectionName := ← m.required ["section"]
      action := ← m.required ["action"] }

end CalBench
