import MiniMarkup.Platform

namespace MiniMarkup

structure Options where
  /-- The name under which finished markup is handed over. -/
  filename : String := "index.wxml"
  platform : Platform := .weixin
  /-- Stands in for the platform's control prefix when it is given. -/
  customPrefix : Option String := none
  /-- Whether comments are written. -/
  comments : Bool := false
  deriving DecidableEq, Repr

namespace Options

def defaults : Options := {}

/-- Options for `platform` that name the output after the platform's template file for `stem`. -/
def targeting (platform : Platform) (stem : String) : Options :=
  { filename := platform.templateFile stem, platform }

/-- What control attributes start with. -/
def controlPrefix (options : Options) : String :=
  options.customPrefix.getD options.platform.controlPrefix

end Options

end MiniMarkup
