import DependencyGate.Console.Markup
import DependencyGate.History.Address.Place
import DependencyGate.Time.ZoneName

/-!
# Packages

Commands are built on other packages: one knows the time zones, one opens databases by their
addresses and one prints marked-up texts. Commands take whatever packages there are, and what is
proved of them assumes of the packages what these are documented to do (`Packages.Documented`). The
ones that a program runs with are `Packages.known`.
-/

namespace DependencyGate.CommandLine

structure Packages where
  zones : Time.ZoneBase
  /-- Where an address of a database leads. -/
  locate : String → Except Foreign History.Place
  /-- The characters of a marked-up text. -/
  print : String → Except Foreign String

def colors : List String := ["red", "green", "yellow"]

namespace Packages

/-- Official names are those of zones. A text without an opening bracket has no tags, so that it
is printed, and so is one whose only tags are those around a text in a colour. -/
structure Documented (p : Packages) : Prop where
  zones : p.zones.Complete
  plain : ∀ text, '[' ∉ text.toList → ∃ shown, p.print text = .ok shown
  colored : ∀ color ∈ colors, ∀ before text : String, (∀ c ∈ before.toList, c ≠ '[' ∧ c ≠ '\\') →
    '[' ∉ text.toList →
    ∃ shown, p.print (before ++ ("[" ++ color ++ "]" ++ text ++ "[/" ++ color ++ "]")) = .ok shown

def known : Packages where
  zones := .known
  locate := History.Address.locate
  print := Console.Markup.plain

end Packages
end DependencyGate.CommandLine
