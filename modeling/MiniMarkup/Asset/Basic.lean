namespace MiniMarkup

namespace Asset

inductive Kind where
  | markup
  deriving DecidableEq, Repr

namespace Kind

def all : List Kind := [markup]

def name : Kind → String
  | markup => "markup"

end Kind

end Asset

/-- Something finished, with the name of the file that it is for. -/
structure Asset where
  kind : Asset.Kind
  fileName : String
  source : String
  deriving DecidableEq, Repr

end MiniMarkup
