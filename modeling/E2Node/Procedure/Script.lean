import E2Node.Procedure.Outcome

namespace E2Node

inductive Operation
  | subscription
  | delete
  | control
  | update
  deriving DecidableEq

def Operation.name : Operation → String
  | .subscription => "subscription"
  | .delete => "delete"
  | .control => "control"
  | .update => "update"

structure ScriptedAnswer where
  subscription : Except RequestError SubscriptionOutcome
  delete : Except RequestError DeleteOutcome
  control : Except RequestError ControlOutcome
  update : Except RequestError UpdateOutcome

structure Script where
  answers : List ScriptedAnswer
  called : List Operation

namespace Script

def exhausted : RequestError := .unknown "script exhausted"

def next {α : Type} (op : Operation) (pick : ScriptedAnswer → Except RequestError α) (s : Script) :
    Except RequestError α × Script :=
  match s.answers with
  | [] => (.error exhausted, { s with called := s.called ++ [op] })
  | a :: rest => (pick a, ⟨rest, s.called ++ [op]⟩)

def handler : Handler Script where
  subscription _ := next .subscription ScriptedAnswer.subscription
  delete _ := next .delete ScriptedAnswer.delete
  control _ := next .control ScriptedAnswer.control
  update _ := next .update ScriptedAnswer.update

end Script

end E2Node
