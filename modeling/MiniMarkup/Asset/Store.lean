import MiniMarkup.Asset.Basic

/-! # Asset stores

A store keeps every asset in the order of its coming. Of several under one name it finds the last. -/

namespace MiniMarkup.Asset

structure Store where
  assets : Array Asset
  deriving DecidableEq, Repr

namespace Store

def empty : Store := ⟨#[]⟩

def toList (store : Store) : List Asset := store.assets.toList

def size (store : Store) : Nat := store.assets.size

def add (asset : Asset) (store : Store) : Store :=
  ⟨store.assets.push asset⟩

/-- The last asset with a file name. -/
def get? (store : Store) (fileName : String) : Option Asset :=
  store.toList.reverse.find? (·.fileName == fileName)

@[simp] theorem toList_empty : empty.toList = [] := rfl

@[simp] theorem toList_add (asset : Asset) (store : Store) : (store.add asset).toList = store.toList ++ [asset] := by
  simp [toList, add]

@[simp] theorem length_toList (store : Store) : store.toList.length = store.size := by
  simp [toList, size]

end Store

end MiniMarkup.Asset
