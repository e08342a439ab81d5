namespace MiniMarkup

/-- The mini-program hosts that markup is written for. -/
inductive Platform where
  | weixin | toutiao | qq | alipay | baidu | kuaishou
  deriving DecidableEq, Repr

namespace Platform

def all : List Platform :=
  [weixin, toutiao, qq, alipay, baidu, kuaishou]

def name : Platform → String
  | weixin => "weixin"
  | toutiao => "toutiao"
  | qq => "qq"
  | alipay => "alipay"
  | baidu => "baidu"
  | kuaishou => "kuaishou"

/-- What the control attributes of a platform start with. -/
def controlPrefix : Platform → String
  | weixin => "wx:"
  | toutiao => "tt:"
  | qq => "qq:"
  | alipay => "a:"
  | baidu => "s-"
  | kuaishou => "ks:"

/-- The extension of a platform's template files, with its dot. -/
def extension : Platform → String
  | weixin => ".wxml"
  | toutiao => ".ttml"
  | qq => ".qml"
  | alipay => ".axml"
  | baidu => ".swan"
  | kuaishou => ".ksml"

/-- The template file of the page or component at the path `stem`. -/
def templateFile (platform : Platform) (stem : String) : String :=
  stem ++ platform.extension

end Platform

end MiniMarkup
