import RichText.Component
import RichText.Dataset

/-!
The entities that a document refers to, looked up by id. Of entities with the same id the last counts.
The empty id refers to nothing.
-/

namespace RichText

/-- Stores an entity under its id, at the place of an earlier one with that id. -/
def insertById {α : Type} (idOf : α → Text) (entities : List α) (entity : α) : List α :=
  match entities with
  | [] => [entity]
  | other :: rest =>
      if idOf other = idOf entity then entity :: rest
      else other :: insertById idOf rest entity

def byId {α : Type} (idOf : α → Text) (entities : List α) : List α :=
  entities.foldl (insertById idOf) []

structure Store where
  entries : List Entry := []
  assets : List Asset := []
  datasets : List Dataset := []

namespace Store

def ofLists (entries : List Entry) (assets : List Asset) (datasets : List Dataset) : Store where
  entries := byId Entry.id entries
  assets := byId Asset.id assets
  datasets := byId Dataset.id datasets

def find? {α : Type} (idOf : α → Text) (entities : List α) (id : Text) : Option α :=
  if id.isEmpty then none else entities.find? fun entity => idOf entity = id

def entry? (store : Store) (id : Text) : Option Entry := find? Entry.id store.entries id

def asset? (store : Store) (id : Text) : Option Asset := find? Asset.id store.assets id

def dataset? (store : Store) (id : Text) : Option Dataset := find? Dataset.id store.datasets id

inductive Record
  | entry (entry : Entry)
  | asset (asset : Asset)

/-- The entry with an id, or else the asset. -/
def record? (store : Store) (id : Text) : Option Record :=
  match store.entry? id with
  | some entry => some (.entry entry)
  | none => (store.asset? id).map .asset

def entryIds (store : Store) : List Text := Text.sorted (store.entries.map (·.id))

def datasetIds (store : Store) : List Text := Text.sorted (store.datasets.map (·.id))

def size (store : Store) : Nat := store.entries.length + store.assets.length

end Store

end RichText
