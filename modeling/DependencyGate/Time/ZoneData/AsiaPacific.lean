import DependencyGate.Time.Zone

/-!
# Asian and Pacific clocks

The offset changes of Asia/Shanghai, Asia/Kolkata, Asia/Kathmandu, Asia/Tokyo, Australia/Lord_Howe
and Pacific/Apia,
each with the UTC second it takes effect at, counted from the start of year 1, and the
offset and daylight share in minutes that it brings.
-/

namespace DependencyGate.Time.ZoneData

def shanghai : ZoneTable where
  first := ⟨486, 0⟩
  changes :=
    [⟨59988113152, ⟨480, 0⟩⟩, ⟨60534921600, ⟨540, 60⟩⟩, ⟨60549692400, ⟨480, 0⟩⟩,
     ⟨61201929600, ⟨540, 60⟩⟩, ⟨61213503600, ⟨480, 0⟩⟩, ⟨61226726400, ⟨540, 60⟩⟩,
     ⟨61246767600, ⟨480, 0⟩⟩, ⟨61254547200, ⟨540, 60⟩⟩, ⟨61367727600, ⟨480, 0⟩⟩,
     ⟨61389763200, ⟨540, 60⟩⟩, ⟨61401769200, ⟨480, 0⟩⟩, ⟨61418707200, ⟨540, 60⟩⟩,
     ⟨61435983600, ⟨480, 0⟩⟩, ⟨61451712000, ⟨540, 60⟩⟩, ⟨61464927600, ⟨480, 0⟩⟩,
     ⟨61483248000, ⟨540, 60⟩⟩, ⟨61485577200, ⟨480, 0⟩⟩, ⟨62651124000, ⟨540, 60⟩⟩,
     ⟨62662611600, ⟨480, 0⟩⟩, ⟨62680759200, ⟨540, 60⟩⟩, ⟨62694061200, ⟨480, 0⟩⟩,
     ⟨62712813600, ⟨540, 60⟩⟩, ⟨62725510800, ⟨480, 0⟩⟩, ⟨62744263200, ⟨540, 60⟩⟩,
     ⟨62757565200, ⟨480, 0⟩⟩, ⟨62775712800, ⟨540, 60⟩⟩, ⟨62789014800, ⟨480, 0⟩⟩,
     ⟨62807162400, ⟨540, 60⟩⟩, ⟨62820464400, ⟨480, 0⟩⟩]

def kolkata : ZoneTable where
  first := ⟨353, 0⟩
  changes :=
    [⟨59988113152, ⟨321, 0⟩⟩, ⟨60115891130, ⟨330, 0⟩⟩, ⟨61244015400, ⟨390, 60⟩⟩,
     ⟨61263538200, ⟨330, 0⟩⟩, ⟨61272959400, ⟨390, 60⟩⟩, ⟨61371451800, ⟨330, 0⟩⟩]

def kathmandu : ZoneTable where
  first := ⟨341, 0⟩
  changes :=
    [⟨60557653124, ⟨330, 0⟩⟩, ⟨62640498600, ⟨345, 0⟩⟩]

def tokyo : ZoneTable where
  first := ⟨559, 0⟩
  changes :=
    [⟨59988113152, ⟨540, 0⟩⟩, ⟨61451794800, ⟨600, 60⟩⟩, ⟨61463286000, ⟨540, 0⟩⟩,
     ⟨61480825200, ⟨600, 60⟩⟩, ⟨61494735600, ⟨540, 0⟩⟩, ⟨61515298800, ⟨600, 60⟩⟩,
     ⟨61526185200, ⟨540, 0⟩⟩, ⟨61546748400, ⟨600, 60⟩⟩, ⟨61557634800, ⟨540, 0⟩⟩]

def lordHowe : ZoneTable where
  first := ⟨636, 0⟩
  changes :=
    [⟨59988113152, ⟨600, 0⟩⟩, ⟨62487813600, ⟨630, 0⟩⟩, ⟨62508382200, ⟨690, 60⟩⟩,
     ⟨62519869800, ⟨630, 0⟩⟩, ⟨62540436600, ⟨690, 60⟩⟩, ⟨62551319400, ⟨630, 0⟩⟩,
     ⟨62571886200, ⟨690, 60⟩⟩, ⟨62582769000, ⟨630, 0⟩⟩, ⟨62603335800, ⟨690, 60⟩⟩,
     ⟨62614218600, ⟨630, 0⟩⟩, ⟨62634785400, ⟨660, 30⟩⟩, ⟨62646879600, ⟨630, 0⟩⟩,
     ⟨62665630200, ⟨660, 30⟩⟩, ⟨62678329200, ⟨630, 0⟩⟩, ⟨62697684600, ⟨660, 30⟩⟩,
     ⟨62710383600, ⟨630, 0⟩⟩, ⟨62729739000, ⟨660, 30⟩⟩, ⟨62741833200, ⟨630, 0⟩⟩,
     ⟨62761188600, ⟨660, 30⟩⟩, ⟨62772073200, ⟨630, 0⟩⟩, ⟨62792638200, ⟨660, 30⟩⟩,
     ⟨62803522800, ⟨630, 0⟩⟩, ⟨62824087800, ⟨660, 30⟩⟩, ⟨62834972400, ⟨630, 0⟩⟩,
     ⟨62855537400, ⟨660, 30⟩⟩, ⟨62867026800, ⟨630, 0⟩⟩, ⟨62887591800, ⟨660, 30⟩⟩,
     ⟨62898476400, ⟨630, 0⟩⟩, ⟨62919041400, ⟨660, 30⟩⟩, ⟨62929926000, ⟨630, 0⟩⟩,
     ⟨62950491000, ⟨660, 30⟩⟩, ⟨62963794800, ⟨630, 0⟩⟩, ⟨62981940600, ⟨660, 30⟩⟩,
     ⟨62995244400, ⟨630, 0⟩⟩, ⟨63013390200, ⟨660, 30⟩⟩, ⟨63026694000, ⟨630, 0⟩⟩,
     ⟨63044839800, ⟨660, 30⟩⟩, ⟨63058143600, ⟨630, 0⟩⟩, ⟨63076894200, ⟨660, 30⟩⟩,
     ⟨63089593200, ⟨630, 0⟩⟩, ⟨63102900600, ⟨660, 30⟩⟩, ⟨63121042800, ⟨630, 0⟩⟩,
     ⟨63139793400, ⟨660, 30⟩⟩, ⟨63153097200, ⟨630, 0⟩⟩, ⟨63171243000, ⟨660, 30⟩⟩,
     ⟨63184546800, ⟨630, 0⟩⟩, ⟨63202692600, ⟨660, 30⟩⟩, ⟨63215996400, ⟨630, 0⟩⟩,
     ⟨63234747000, ⟨660, 30⟩⟩, ⟨63247446000, ⟨630, 0⟩⟩, ⟨63266196600, ⟨660, 30⟩⟩,
     ⟨63279500400, ⟨630, 0⟩⟩, ⟨63297646200, ⟨660, 30⟩⟩, ⟨63310345200, ⟨630, 0⟩⟩,
     ⟨63329095800, ⟨660, 30⟩⟩, ⟨63343004400, ⟨630, 0⟩⟩, ⟨63358731000, ⟨660, 30⟩⟩,
     ⟨63374454000, ⟨630, 0⟩⟩, ⟨63390180600, ⟨660, 30⟩⟩, ⟨63405903600, ⟨630, 0⟩⟩,
     ⟨63421630200, ⟨660, 30⟩⟩, ⟨63437353200, ⟨630, 0⟩⟩, ⟨63453079800, ⟨660, 30⟩⟩,
     ⟨63468802800, ⟨630, 0⟩⟩, ⟨63485134200, ⟨660, 30⟩⟩, ⟨63500857200, ⟨630, 0⟩⟩,
     ⟨63516583800, ⟨660, 30⟩⟩, ⟨63532306800, ⟨630, 0⟩⟩, ⟨63548033400, ⟨660, 30⟩⟩,
     ⟨63563756400, ⟨630, 0⟩⟩, ⟨63579483000, ⟨660, 30⟩⟩, ⟨63595206000, ⟨630, 0⟩⟩,
     ⟨63610932600, ⟨660, 30⟩⟩, ⟨63626655600, ⟨630, 0⟩⟩, ⟨63642382200, ⟨660, 30⟩⟩,
     ⟨63658105200, ⟨630, 0⟩⟩, ⟨63674436600, ⟨660, 30⟩⟩, ⟨63690159600, ⟨630, 0⟩⟩,
     ⟨63705886200, ⟨660, 30⟩⟩, ⟨63721609200, ⟨630, 0⟩⟩, ⟨63737335800, ⟨660, 30⟩⟩,
     ⟨63753058800, ⟨630, 0⟩⟩, ⟨63768785400, ⟨660, 30⟩⟩, ⟨63784508400, ⟨630, 0⟩⟩,
     ⟨63800235000, ⟨660, 30⟩⟩, ⟨63815958000, ⟨630, 0⟩⟩, ⟨63831684600, ⟨660, 30⟩⟩,
     ⟨63848012400, ⟨630, 0⟩⟩, ⟨63863739000, ⟨660, 30⟩⟩, ⟨63879462000, ⟨630, 0⟩⟩,
     ⟨63895188600, ⟨660, 30⟩⟩, ⟨63910911600, ⟨630, 0⟩⟩, ⟨63926638200, ⟨660, 30⟩⟩,
     ⟨63942361200, ⟨630, 0⟩⟩, ⟨63958087800, ⟨660, 30⟩⟩, ⟨63973810800, ⟨630, 0⟩⟩,
     ⟨63989537400, ⟨660, 30⟩⟩, ⟨64005260400, ⟨630, 0⟩⟩, ⟨64021591800, ⟨660, 30⟩⟩,
     ⟨64037314800, ⟨630, 0⟩⟩, ⟨64053041400, ⟨660, 30⟩⟩, ⟨64068764400, ⟨630, 0⟩⟩,
     ⟨64084491000, ⟨660, 30⟩⟩, ⟨64100214000, ⟨630, 0⟩⟩, ⟨64115940600, ⟨660, 30⟩⟩,
     ⟨64131663600, ⟨630, 0⟩⟩, ⟨64147390200, ⟨660, 30⟩⟩, ⟨64163113200, ⟨630, 0⟩⟩,
     ⟨64178839800, ⟨660, 30⟩⟩, ⟨64194562800, ⟨630, 0⟩⟩, ⟨64210894200, ⟨660, 30⟩⟩,
     ⟨64226617200, ⟨630, 0⟩⟩, ⟨64242343800, ⟨660, 30⟩⟩, ⟨64258066800, ⟨630, 0⟩⟩,
     ⟨64273793400, ⟨660, 30⟩⟩]

def apia : ZoneTable where
  first := ⟨753, 0⟩
  changes :=
    [⟨59988113152, ⟨-687, 0⟩⟩, ⟨60273718016, ⟨-690, 0⟩⟩, ⟨61504486200, ⟨-660, 0⟩⟩,
     ⟨63421095600, ⟨-600, 60⟩⟩, ⟨63437349600, ⟨-660, 0⟩⟩, ⟨63452469600, ⟨-600, 60⟩⟩,
     ⟨63460836000, ⟨840, 60⟩⟩, ⟨63468799200, ⟨780, 0⟩⟩, ⟨63484524000, ⟨840, 60⟩⟩,
     ⟨63500853600, ⟨780, 0⟩⟩, ⟨63515973600, ⟨840, 60⟩⟩, ⟨63532303200, ⟨780, 0⟩⟩,
     ⟨63547423200, ⟨840, 60⟩⟩, ⟨63563752800, ⟨780, 0⟩⟩, ⟨63578872800, ⟨840, 60⟩⟩,
     ⟨63595202400, ⟨780, 0⟩⟩, ⟨63610322400, ⟨840, 60⟩⟩, ⟨63626652000, ⟨780, 0⟩⟩,
     ⟨63641772000, ⟨840, 60⟩⟩, ⟨63658101600, ⟨780, 0⟩⟩, ⟨63673826400, ⟨840, 60⟩⟩,
     ⟨63690156000, ⟨780, 0⟩⟩, ⟨63705276000, ⟨840, 60⟩⟩, ⟨63721605600, ⟨780, 0⟩⟩,
     ⟨63736725600, ⟨840, 60⟩⟩, ⟨63753055200, ⟨780, 0⟩⟩]

end DependencyGate.Time.ZoneData
