/-! Values of configuration texts. Numbers with a fraction and dates only occur where nobody reads
them, so their kind is all that is kept. -/
namespace Playground

inductive Toml where
  | string (value : String)
  | int (value : Int)
  | float
  | bool (value : Bool)
  | datetime
  | array (items : List Toml)
  | table (entries : List (String × Toml))

namespace Toml

def get? (entries : List (String × Toml)) (key : String) : Option Toml := entries.lookup key

end Toml
end Playground
