/-!
# Joined text

Lists are written with a separator between neighbours and none at either end.
-/

namespace FuncAdapter.Text

/-- Write texts one after another with a separator between neighbours. -/
def join (separator : String) : List String → String
  | [] => ""
  | [text] => text
  | text :: next :: rest => text ++ separator ++ join separator (next :: rest)

@[simp]
theorem join_nil (separator : String) : join separator [] = "" := rfl

@[simp]
theorem join_singleton (separator text : String) : join separator [text] = text := rfl

end FuncAdapter.Text
