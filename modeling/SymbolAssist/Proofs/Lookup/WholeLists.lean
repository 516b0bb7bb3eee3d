import SymbolAssist.Host
import SymbolAssist.Proofs.Catalogue.Merged

/-! A catalogue gives the same answers whether it looks names up itself or only shows its lists. -/

namespace SymbolAssist

/-- The lists of a source and nothing else, so that answers by name are worked out from them. -/
def Source.listsOnly (source : Source) : Source where
  category := source.category
  aliases := source.aliases

namespace Catalogue

variable (catalogue : Catalogue)

/-- The record of a name is the one that the merged categories list for it. -/
theorem get_toSource (categories : List Category) (name : String) :
    catalogue.toSource.get categories name = do
      let records ← catalogue.toSource.category categories
      return records.find? name := by
  -- The catalogue searches from the last category on, and a merged map keeps the last record.
  have searched : catalogue.toSource.get categories name =
    .ok (catalogue.get? categories name) := rfl
  rw [searched, ← find?_merged]
  rfl

/-- The alias of a name is the first one of that name in the list. -/
theorem findAlias_toSource (name : String) :
    catalogue.toSource.findAlias name = do
      let declared ← catalogue.toSource.aliases
      return declared.find? fun found => found.name = name :=
  -- A catalogue has its aliases at hand, so reading them first changes nothing.
  rfl

/-- Nothing is lost when a catalogue shows no more than its lists. -/
theorem listsOnly_toSource : catalogue.toSource.listsOnly = catalogue.toSource := by
  -- A source is its four answers, so these are compared one by one.
  have records : catalogue.toSource.listsOnly.get = catalogue.toSource.get := by
    funext categories name
    exact (get_toSource catalogue categories name).symm
  have aliases : catalogue.toSource.listsOnly.findAlias = catalogue.toSource.findAlias := by
    funext name
    exact (findAlias_toSource catalogue name).symm
  -- The two lists are the same from the start, and the answers by name are by the above.
  exact (Source.mk.injEq ..).mpr ⟨rfl, rfl, records, aliases⟩

/--
A catalogue can be replaced by its lists.

What it finds by itself under a name, in some categories or among the aliases, is what its merged
categories and its aliases list for that name.
So every request has the same answer over a source that shows these lists and nothing else, and so
has every run of requests to a host.
-/
theorem answers_from_lists (settings : Settings) :
    let own := catalogue.toSource
    let lists := catalogue.toSource.listsOnly
    (∀ categories name, own.get categories name = do
      let records ← own.category categories
      return records.find? name) ∧
    (∀ name, own.findAlias name = do
      let declared ← own.aliases
      return declared.find? fun found => found.name = name) ∧
    (∀ key, own.hover settings key = lists.hover settings key) ∧
    (∀ text position, (Host.new own settings).hoverAt text position =
      (Host.new lists settings).hoverAt text position) ∧
    (∀ name, own.resolve name = lists.resolve name) ∧
    (∀ space member, own.methods settings space member = lists.methods settings space member) ∧
    (∀ slot text position cancellation, own.complete settings slot text position cancellation =
      lists.complete settings slot text position cancellation) ∧
    (∀ requests, ((Host.new own settings).run requests).1 =
      ((Host.new lists settings).run requests).1) := by
  intro own lists
  -- Requests see nothing of a source but its answers.
  have same : lists = own := catalogue.listsOnly_toSource
  rw [same]
  exact ⟨catalogue.get_toSource, catalogue.findAlias_toSource, fun _ => rfl, fun _ _ => rfl,
    fun _ => rfl, fun _ _ => rfl, fun _ _ _ _ => rfl, fun _ => rfl⟩

end Catalogue

end SymbolAssist
