/-!
# Execution errors

What a failed execution leaves behind: a code, a message and whom to blame.  These are values that
travel on statuses and transitions.
-/

namespace NestedWorkflow

/-- Who is to blame for a failed execution. -/
inductive Blame
  | unknown
  | user
  | system
deriving DecidableEq, Repr, Inhabited

/-- Failure of one node execution. -/
structure ExecutionError where
  code : String
  message : String
  kind : Blame
deriving DecidableEq, Inhabited

namespace ExecutionError

/-- Code of failures outside the sub-workflow, such as unreadable inputs. -/
def runtimeCode : String := "RuntimeExecutionError"

/-- Code of failures of the sub-workflow as a whole. -/
def subWorkflowCode : String := "SubWorkflowExecutionFailed"

/-- A failure the user caused. -/
def user (code message : String) : ExecutionError := ⟨code, message, .user⟩

/-- A failure of the system. -/
def system (code message : String) : ExecutionError := ⟨code, message, .system⟩

/-- The code in brackets, then the message. -/
def display (e : ExecutionError) : String := "[" ++ e.code ++ "] " ++ e.message

end ExecutionError

end NestedWorkflow
