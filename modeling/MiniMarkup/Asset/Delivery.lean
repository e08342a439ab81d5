import MiniMarkup.Asset.Store
import MiniMarkup.Markup.Tree

/-! # Delivery

Finished markup is handed over as an asset. Nothing is handed over for a template with a fault. -/

namespace MiniMarkup

/-- Hands a template's markup to `receive` under the name that the options give. -/
def Template.deliver {σ : Type} (template : Template) (options : Options) (receive : Asset → σ → σ)
    (receiver : σ) : Except Fault Unit × σ :=
  match template.toMarkup options with
  | .ok markup => (.ok (), receive ⟨.markup, options.filename, markup⟩ receiver)
  | .error fault => (.error fault, receiver)

namespace Asset.Store

inductive Request where
  | deliver (template : Template) (options : Options)
  | add (asset : Asset)
  | get (fileName : String)
  | list

inductive Answer where
  | delivered (result : Except Fault Unit)
  | added
  | found (asset : Option Asset)
  | listed (assets : List Asset)

def answer (store : Store) : Request → Answer × Store
  | .deliver template options =>
      let (result, store) := template.deliver options Store.add store
      (.delivered result, store)
  | .add asset => (.added, store.add asset)
  | .get fileName => (.found (store.get? fileName), store)
  | .list => (.listed store.toList, store)

/-- The answers to all requests in turn, each with the store behind it. -/
def answerAll (store : Store) : List Request → List (Answer × Store)
  | [] => []
  | request :: requests =>
      let result := store.answer request
      result :: result.2.answerAll requests

end Asset.Store

end MiniMarkup
