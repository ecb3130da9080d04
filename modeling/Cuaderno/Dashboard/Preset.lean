import Cuaderno.Calendar.Clock
import Cuaderno.Item
import Cuaderno.Panel
import Cuaderno.Schema
import Cuaderno.Text.Piece

/-!
# Presets

Presets select items by rules of their own. Orphans are items that nothing links to and that have
no tags, daily notes aside. The inbox holds items without tags and without links in either
direction. Favorites have a flag of some such name; names and flags are recognised by key.
-/

namespace Cuaderno

/-- The parts of names that mark a property as a flag for favorites. -/
def favoriteNames : List String :=
  ["favorito", "favorite", "isfavorite", "fav", "starred", "destacado"]

def raisedFlags : List String := ["true", "si", "yes", "1"]

def dailyNoteIds : List String := ["daily", "daily_note", "nota_diaria"]

def dailyNoteNames : List String := ["nota diaria", "daily note"]

def isFavoriteName (name : String) : Bool :=
  favoriteNames.any fun part => Text.occursIn part.toList (Text.fold name.toList)

def Value.isRaised : Value → Bool
  | .flag b => b
  | .text s => raisedFlags.contains (Text.key s)
  | _ => false

namespace Item

/-- Whether an item is a daily note, by the id or the name of its type. -/
def isDailyNote (item : Item) (catalog : Catalog) : Bool :=
  dailyNoteIds.contains (Text.key item.typeId)
    || (catalog.type? item.typeId).any fun t => dailyNoteNames.contains (Text.key t.name)

def isFavorite (item : Item) (catalog : Catalog) : Bool :=
  item.properties.any fun (id, v) =>
    let names := match catalog.property? item.typeId id with
      | some p => [p.id, p.name]
      | none => [id]
    names.any isFavoriteName && v.isRaised

end Item

/-- The moment some days before another, or a fault when it lies beyond the calendar. -/
def Moment.daysBefore (m : Moment) (days : Int) : Except Fault Moment :=
  match Moment.ofInstant? (m.instant - days * microsPerDay) with
  | some m => .ok m
  | none => .error .outOfRange

/-- How many days back a change is recent, when no other number is given. -/
def recentDays : Int := 7

def Preset.rule (p : Preset) (catalog : Catalog) (now : Moment) (days : Int) :
    Except Fault (Item → Bool) :=
  match p with
  | .orphans => .ok fun item =>
    item.backlinks.isEmpty && item.tags.isEmpty && !item.isDailyNote catalog
  | .inbox => .ok fun item => item.tags.isEmpty && item.links.isEmpty && item.backlinks.isEmpty
  | .recentlyModified => do
    let start ← now.daysBefore days
    return fun item => start ≤ item.updated
  | .favorites => .ok fun item => item.isFavorite catalog

end Cuaderno
