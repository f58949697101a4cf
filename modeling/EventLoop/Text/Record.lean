/-! # Records as text

    A record is written as its name, then its fields between braces, each as `label: value`;
    a tagged value as its tag, then the value between parentheses. -/

namespace EventLoop.Text

/-- A record with labelled fields, in order. -/
def record (name : String) (fields : List (String × String)) : String :=
  name ++ " \x7b " ++ ", ".intercalate (fields.map fun (label, value) => label ++ ": " ++ value)
    ++ " \x7d"

/-- A tag around one value. -/
def tagged (tag value : String) : String := tag ++ "(" ++ value ++ ")"

end EventLoop.Text
