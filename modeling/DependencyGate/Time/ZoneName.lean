import DependencyGate.Time.ZoneData.Americas
import DependencyGate.Time.ZoneData.AsiaPacific
import DependencyGate.Time.ZoneData.Europe

/-!
# Known time zones

Some zones and their official names. They are looked up without regard to the case of ASCII
letters, and signs may be spelled as words.
-/

namespace DependencyGate.Time

def zones : List (String × Zone) :=
  [("UTC", .fixed 0), ("Etc/UTC", .fixed 0), ("Zulu", .fixed 0), ("GMT", .fixed 0),
   ("GMT+0", .fixed 0), ("Etc/GMT+5", .fixed (-300)), ("Etc/GMT-14", .fixed 840),
   ("America/New_York", .table ZoneData.newYork), ("EST5EDT", .table ZoneData.newYork),
   ("Europe/London", .table ZoneData.london), ("Asia/Shanghai", .table ZoneData.shanghai),
   ("America/Sao_Paulo", .table ZoneData.saoPaulo),
   ("Australia/Lord_Howe", .table ZoneData.lordHowe), ("Asia/Kolkata", .table ZoneData.kolkata),
   ("Pacific/Apia", .table ZoneData.apia), ("America/Havana", .table ZoneData.havana),
   ("Europe/Dublin", .table ZoneData.dublin), ("Asia/Kathmandu", .table ZoneData.kathmandu),
   ("Europe/Berlin", .table ZoneData.berlin), ("Asia/Tokyo", .table ZoneData.tokyo)]

def foldCase (s : String) : List Char := s.toList.map Char.toLower

def zoneNamed? (name : String) : Option Zone :=
  (zones.find? fun entry => foldCase entry.1 == foldCase name).map (·.2)

def zoneSpelling (name : String) : String :=
  "-".intercalate (("+".intercalate (name.splitOn "_plus_")).splitOn "_minus_")

def ZoneBase.known : ZoneBase where
  isName name := zones.any fun entry => entry.1 == name
  find name :=
    let spelling := if name.toList.all fun c => c.toNat < 128 then zoneSpelling name else name
    match zoneNamed? spelling with
    | some z => .ok z
    | none => .error spelling

end DependencyGate.Time
