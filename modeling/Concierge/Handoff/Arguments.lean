import Concierge.Registry.Error
import Concierge.Text.Blank
import Concierge.Tool.Output

/-!
# The arguments of the signalling tools

A tool that asks for a handoff, or ends one, turns usable arguments into a signal and names the
first unusable one otherwise. A role that the directory does not list is reported to the model as
text, so that it can choose another.
-/

namespace Concierge.Handoff

def textArgument? (args : Value) (key : String) : Option String :=
  match (args.member? key).bind Value.text? with
  | some s => if Text.blank s then none else some s
  | none => none

def valueArgument? (args : Value) (key : String) : Option Value :=
  match args.member? key with
  | some v => if v.isNull then none else some v
  | none => none

def missing (key : String) (args : Value) : ToolOutput :=
  .ofSignal (.malformed ("Missing required argument '" ++ key ++ "'") args)

def request (roles : List String) (args : Value) : ToolOutput :=
  match textArgument? args "specialist_role" with
  | none => missing "specialist_role" args
  | some role =>
    match textArgument? args "initial_context" with
    | none => missing "initial_context" args
    | some context =>
      if role ∈ roles then .ofSignal (.request role context)
      else .error (unknownRoleText role roles)

def finish (args : Value) : ToolOutput :=
  match textArgument? args "status" with
  | none => missing "status" args
  | some status =>
    match valueArgument? args "final_result" with
    | none => missing "final_result" args
    | some result =>
      match textArgument? args "last_user_message" with
      | none => missing "last_user_message" args
      | some last =>
        .ofSignal (.handback ⟨status, result, last, textArgument? args "message_to_coordinator"⟩)

end Concierge.Handoff
