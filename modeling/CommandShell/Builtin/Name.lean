/-
# The names of the built-in commands
-/
namespace CommandShell

/-- The commands that the shell carries out itself. -/
inductive BuiltinName
  | cd | echo | exit | history | pwd | type
deriving Repr, DecidableEq

namespace BuiltinName

/-- All of them, in the order of their names. -/
def all : List BuiltinName := [.cd, .echo, .exit, .history, .pwd, .type]

/-- The name as it is typed. -/
def text : BuiltinName → String
  | .cd => "cd"
  | .echo => "echo"
  | .exit => "exit"
  | .history => "history"
  | .pwd => "pwd"
  | .type => "type"

def ofText? (name : String) : Option BuiltinName := all.find? (·.text == name)

/-- Exactly the listed names belong to built-in commands. -/
theorem ofText?_eq_some_iff {name : String} {b : BuiltinName} :
    ofText? name = some b ↔ name = b.text := by
  constructor
  · intro h
    exact (beq_iff_eq.1 (List.find?_eq_some_iff_append.1 h).1).symm
  · rintro rfl
    cases b <;> rfl

end BuiltinName
end CommandShell
