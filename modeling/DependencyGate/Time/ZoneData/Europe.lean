import DependencyGate.Time.Zone

/-!
# European clocks

The offset changes of Europe/London, Europe/Dublin and Europe/Berlin,
each with the UTC second it takes effect at, counted from the start of year 1, and the
offset and daylight share in minutes that it brings.
-/

namespace DependencyGate.Time.ZoneData

def london : ZoneTable where
  first := ⟨-1, 0⟩
  changes :=
    [⟨59988113152, ⟨0, 0⟩⟩, ⟨60443632800, ⟨60, 60⟩⟩, ⟨60455124000, ⟨0, 0⟩⟩,
     ⟨60471453600, ⟨60, 60⟩⟩, ⟨60485450400, ⟨0, 0⟩⟩, ⟨60501693600, ⟨60, 60⟩⟩,
     ⟨60518109600, ⟨0, 0⟩⟩, ⟨60533748000, ⟨60, 60⟩⟩, ⟨60549559200, ⟨0, 0⟩⟩,
     ⟨60565197600, ⟨60, 60⟩⟩, ⟨60583428000, ⟨0, 0⟩⟩, ⟨60597252000, ⟨60, 60⟩⟩,
     ⟨60613063200, ⟨0, 0⟩⟩, ⟨60628096800, ⟨60, 60⟩⟩, ⟨60645031200, ⟨0, 0⟩⟩,
     ⟨60661965600, ⟨60, 60⟩⟩, ⟨60674666400, ⟨0, 0⟩⟩, ⟨60692810400, ⟨60, 60⟩⟩,
     ⟨60706720800, ⟨0, 0⟩⟩, ⟨60724864800, ⟨60, 60⟩⟩, ⟨60739380000, ⟨0, 0⟩⟩,
     ⟨60756314400, ⟨60, 60⟩⟩, ⟨60770829600, ⟨0, 0⟩⟩, ⟨60787159200, ⟨60, 60⟩⟩,
     ⟨60802279200, ⟨0, 0⟩⟩, ⟨60819818400, ⟨60, 60⟩⟩, ⟨60834333600, ⟨0, 0⟩⟩,
     ⟨60851268000, ⟨60, 60⟩⟩, ⟨60865783200, ⟨0, 0⟩⟩, ⟨60882112800, ⟨60, 60⟩⟩,
     ⟨60897232800, ⟨0, 0⟩⟩, ⟨60914167200, ⟨60, 60⟩⟩, ⟨60928682400, ⟨0, 0⟩⟩,
     ⟨60945616800, ⟨60, 60⟩⟩, ⟨60960132000, ⟨0, 0⟩⟩, ⟨60976461600, ⟨60, 60⟩⟩,
     ⟨60992186400, ⟨0, 0⟩⟩, ⟨61009120800, ⟨60, 60⟩⟩, ⟨61023636000, ⟨0, 0⟩⟩,
     ⟨61039965600, ⟨60, 60⟩⟩, ⟨61055085600, ⟨0, 0⟩⟩, ⟨61072020000, ⟨60, 60⟩⟩,
     ⟨61086535200, ⟨0, 0⟩⟩, ⟨61103469600, ⟨60, 60⟩⟩, ⟨61117984800, ⟨0, 0⟩⟩,
     ⟨61134314400, ⟨60, 60⟩⟩, ⟨61149434400, ⟨0, 0⟩⟩, ⟨61166368800, ⟨60, 60⟩⟩,
     ⟨61185117600, ⟨0, 0⟩⟩, ⟨61193584800, ⟨60, 60⟩⟩, ⟨61231078800, ⟨120, 120⟩⟩,
     ⟨61239546000, ⟨60, 60⟩⟩, ⟨61260109200, ⟨120, 120⟩⟩, ⟨61270995600, ⟨60, 60⟩⟩,
     ⟨61291558800, ⟨120, 120⟩⟩, ⟨61303050000, ⟨60, 60⟩⟩, ⟨61323008400, ⟨120, 120⟩⟩,
     ⟨61337523600, ⟨60, 60⟩⟩, ⟨61354544400, ⟨120, 120⟩⟩, ⟨61363530000, ⟨60, 60⟩⟩,
     ⟨61370791200, ⟨0, 0⟩⟩, ⟨61387120800, ⟨60, 60⟩⟩, ⟨61402240800, ⟨0, 0⟩⟩,
     ⟨61416151200, ⟨60, 60⟩⟩, ⟨61418566800, ⟨120, 120⟩⟩, ⟨61428848400, ⟨60, 60⟩⟩,
     ⟨61436109600, ⟨0, 0⟩⟩, ⟨61447600800, ⟨60, 60⟩⟩, ⟨61467559200, ⟨0, 0⟩⟩,
     ⟨61480864800, ⟨60, 60⟩⟩, ⟨61499008800, ⟨0, 0⟩⟩, ⟨61513524000, ⟨60, 60⟩⟩,
     ⟨61529853600, ⟨0, 0⟩⟩, ⟨61544973600, ⟨60, 60⟩⟩, ⟨61561303200, ⟨0, 0⟩⟩,
     ⟨61577028000, ⟨60, 60⟩⟩, ⟨61593357600, ⟨0, 0⟩⟩, ⟨61608477600, ⟨60, 60⟩⟩,
     ⟨61622992800, ⟨0, 0⟩⟩, ⟨61639322400, ⟨60, 60⟩⟩, ⟨61654442400, ⟨0, 0⟩⟩,
     ⟨61671376800, ⟨60, 60⟩⟩, ⟨61685892000, ⟨0, 0⟩⟩, ⟨61703431200, ⟨60, 60⟩⟩,
     ⟨61717946400, ⟨0, 0⟩⟩, ⟨61734276000, ⟨60, 60⟩⟩, ⟨61749396000, ⟨0, 0⟩⟩,
     ⟨61766330400, ⟨60, 60⟩⟩, ⟨61780845600, ⟨0, 0⟩⟩, ⟨61797780000, ⟨60, 60⟩⟩,
     ⟨61812295200, ⟨0, 0⟩⟩, ⟨61828624800, ⟨60, 60⟩⟩, ⟨61843744800, ⟨0, 0⟩⟩,
     ⟨61858864800, ⟨60, 60⟩⟩, ⟨61877613600, ⟨0, 0⟩⟩, ⟨61890314400, ⟨60, 60⟩⟩,
     ⟨61909063200, ⟨0, 0⟩⟩, ⟨61922368800, ⟨60, 60⟩⟩, ⟨61940512800, ⟨0, 0⟩⟩,
     ⟨61953213600, ⟨60, 60⟩⟩, ⟨61971962400, ⟨0, 0⟩⟩, ⟨61984663200, ⟨60, 60⟩⟩,
     ⟨62003412000, ⟨0, 0⟩⟩, ⟨62016112800, ⟨60, 60⟩⟩, ⟨62034861600, ⟨0, 0⟩⟩,
     ⟨62047562400, ⟨60, 60⟩⟩, ⟨62066916000, ⟨0, 0⟩⟩, ⟨62076592800, ⟨60, 60⟩⟩,
     ⟨62098354800, ⟨60, 0⟩⟩, ⟨62193319200, ⟨0, 0⟩⟩, ⟨62205415200, ⟨60, 60⟩⟩,
     ⟨62224768800, ⟨0, 0⟩⟩, ⟨62236864800, ⟨60, 60⟩⟩, ⟨62256218400, ⟨0, 0⟩⟩,
     ⟨62268314400, ⟨60, 60⟩⟩, ⟨62287668000, ⟨0, 0⟩⟩, ⟨62299764000, ⟨60, 60⟩⟩,
     ⟨62319117600, ⟨0, 0⟩⟩, ⟨62331818400, ⟨60, 60⟩⟩, ⟨62350567200, ⟨0, 0⟩⟩,
     ⟨62363268000, ⟨60, 60⟩⟩, ⟨62382016800, ⟨0, 0⟩⟩, ⟨62394717600, ⟨60, 60⟩⟩,
     ⟨62414071200, ⟨0, 0⟩⟩, ⟨62426167200, ⟨60, 60⟩⟩, ⟨62445520800, ⟨0, 0⟩⟩,
     ⟨62457616800, ⟨60, 60⟩⟩, ⟨62476970400, ⟨0, 0⟩⟩, ⟨62490272400, ⟨60, 60⟩⟩,
     ⟨62508416400, ⟨0, 0⟩⟩, ⟨62521722000, ⟨60, 60⟩⟩, ⟨62539866000, ⟨0, 0⟩⟩,
     ⟨62553171600, ⟨60, 60⟩⟩, ⟨62571315600, ⟨0, 0⟩⟩, ⟨62584621200, ⟨60, 60⟩⟩,
     ⟨62603370000, ⟨0, 0⟩⟩, ⟨62616675600, ⟨60, 60⟩⟩, ⟨62634819600, ⟨0, 0⟩⟩,
     ⟨62648125200, ⟨60, 60⟩⟩, ⟨62666269200, ⟨0, 0⟩⟩, ⟨62679574800, ⟨60, 60⟩⟩,
     ⟨62697718800, ⟨0, 0⟩⟩, ⟨62711024400, ⟨60, 60⟩⟩, ⟨62729168400, ⟨0, 0⟩⟩,
     ⟨62742474000, ⟨60, 60⟩⟩, ⟨62761222800, ⟨0, 0⟩⟩, ⟨62773923600, ⟨60, 60⟩⟩,
     ⟨62792672400, ⟨0, 0⟩⟩, ⟨62805978000, ⟨60, 60⟩⟩, ⟨62824122000, ⟨0, 0⟩⟩,
     ⟨62837427600, ⟨60, 60⟩⟩, ⟨62855571600, ⟨0, 0⟩⟩, ⟨62868877200, ⟨60, 60⟩⟩,
     ⟨62887021200, ⟨0, 0⟩⟩, ⟨62900326800, ⟨60, 60⟩⟩, ⟨62918470800, ⟨0, 0⟩⟩,
     ⟨62931776400, ⟨60, 60⟩⟩, ⟨62949920400, ⟨0, 0⟩⟩, ⟨62963830800, ⟨60, 60⟩⟩,
     ⟨62981974800, ⟨0, 0⟩⟩, ⟨62995280400, ⟨60, 60⟩⟩, ⟨63013424400, ⟨0, 0⟩⟩,
     ⟨63026730000, ⟨60, 60⟩⟩, ⟨63044874000, ⟨0, 0⟩⟩, ⟨63058179600, ⟨60, 60⟩⟩,
     ⟨63076928400, ⟨0, 0⟩⟩, ⟨63089629200, ⟨60, 60⟩⟩, ⟨63108378000, ⟨0, 0⟩⟩,
     ⟨63121078800, ⟨60, 60⟩⟩, ⟨63139827600, ⟨0, 0⟩⟩, ⟨63153133200, ⟨60, 60⟩⟩,
     ⟨63171277200, ⟨0, 0⟩⟩, ⟨63184582800, ⟨60, 60⟩⟩, ⟨63202726800, ⟨0, 0⟩⟩,
     ⟨63216032400, ⟨60, 60⟩⟩, ⟨63234781200, ⟨0, 0⟩⟩, ⟨63247482000, ⟨60, 60⟩⟩,
     ⟨63266230800, ⟨0, 0⟩⟩, ⟨63278931600, ⟨60, 60⟩⟩, ⟨63297680400, ⟨0, 0⟩⟩,
     ⟨63310381200, ⟨60, 60⟩⟩, ⟨63329130000, ⟨0, 0⟩⟩, ⟨63342435600, ⟨60, 60⟩⟩,
     ⟨63360579600, ⟨0, 0⟩⟩, ⟨63373885200, ⟨60, 60⟩⟩, ⟨63392029200, ⟨0, 0⟩⟩,
     ⟨63405334800, ⟨60, 60⟩⟩, ⟨63424083600, ⟨0, 0⟩⟩, ⟨63436784400, ⟨60, 60⟩⟩,
     ⟨63455533200, ⟨0, 0⟩⟩, ⟨63468234000, ⟨60, 60⟩⟩, ⟨63486982800, ⟨0, 0⟩⟩,
     ⟨63500288400, ⟨60, 60⟩⟩, ⟨63518432400, ⟨0, 0⟩⟩, ⟨63531738000, ⟨60, 60⟩⟩,
     ⟨63549882000, ⟨0, 0⟩⟩, ⟨63563187600, ⟨60, 60⟩⟩, ⟨63581331600, ⟨0, 0⟩⟩,
     ⟨63594637200, ⟨60, 60⟩⟩, ⟨63613386000, ⟨0, 0⟩⟩, ⟨63626086800, ⟨60, 60⟩⟩,
     ⟨63644835600, ⟨0, 0⟩⟩, ⟨63657536400, ⟨60, 60⟩⟩, ⟨63676285200, ⟨0, 0⟩⟩,
     ⟨63689590800, ⟨60, 60⟩⟩, ⟨63707734800, ⟨0, 0⟩⟩, ⟨63721040400, ⟨60, 60⟩⟩,
     ⟨63739184400, ⟨0, 0⟩⟩, ⟨63752490000, ⟨60, 60⟩⟩, ⟨63771238800, ⟨0, 0⟩⟩,
     ⟨63783939600, ⟨60, 60⟩⟩, ⟨63802688400, ⟨0, 0⟩⟩, ⟨63815389200, ⟨60, 60⟩⟩,
     ⟨63834138000, ⟨0, 0⟩⟩, ⟨63847443600, ⟨60, 60⟩⟩, ⟨63865587600, ⟨0, 0⟩⟩,
     ⟨63878893200, ⟨60, 60⟩⟩, ⟨63897037200, ⟨0, 0⟩⟩, ⟨63910342800, ⟨60, 60⟩⟩,
     ⟨63928486800, ⟨0, 0⟩⟩, ⟨63941792400, ⟨60, 60⟩⟩, ⟨63960541200, ⟨0, 0⟩⟩,
     ⟨63973242000, ⟨60, 60⟩⟩, ⟨63991990800, ⟨0, 0⟩⟩, ⟨64004691600, ⟨60, 60⟩⟩,
     ⟨64023440400, ⟨0, 0⟩⟩, ⟨64036746000, ⟨60, 60⟩⟩, ⟨64054890000, ⟨0, 0⟩⟩,
     ⟨64068195600, ⟨60, 60⟩⟩, ⟨64086339600, ⟨0, 0⟩⟩, ⟨64099645200, ⟨60, 60⟩⟩,
     ⟨64118394000, ⟨0, 0⟩⟩, ⟨64131094800, ⟨60, 60⟩⟩, ⟨64149843600, ⟨0, 0⟩⟩,
     ⟨64162544400, ⟨60, 60⟩⟩, ⟨64181293200, ⟨0, 0⟩⟩, ⟨64193994000, ⟨60, 60⟩⟩,
     ⟨64212742800, ⟨0, 0⟩⟩, ⟨64226048400, ⟨60, 60⟩⟩, ⟨64244192400, ⟨0, 0⟩⟩,
     ⟨64257498000, ⟨60, 60⟩⟩, ⟨64275642000, ⟨0, 0⟩⟩]

def dublin : ZoneTable where
  first := ⟨-25, 0⟩
  changes :=
    [⟨59988113152, ⟨-25, 0⟩⟩, ⟨60443634321, ⟨35, 60⟩⟩, ⟨60455125521, ⟨0, 0⟩⟩,
     ⟨60471453600, ⟨60, 60⟩⟩, ⟨60485450400, ⟨0, 0⟩⟩, ⟨60501693600, ⟨60, 60⟩⟩,
     ⟨60518109600, ⟨0, 0⟩⟩, ⟨60533748000, ⟨60, 60⟩⟩, ⟨60549559200, ⟨0, 0⟩⟩,
     ⟨60565197600, ⟨60, 60⟩⟩, ⟨60583428000, ⟨0, 0⟩⟩, ⟨60597252000, ⟨60, 60⟩⟩,
     ⟨60613063200, ⟨0, 0⟩⟩, ⟨60628096800, ⟨60, 60⟩⟩, ⟨60645031200, ⟨0, 0⟩⟩,
     ⟨60661965600, ⟨60, 60⟩⟩, ⟨60674666400, ⟨0, 0⟩⟩, ⟨60692810400, ⟨60, 60⟩⟩,
     ⟨60706720800, ⟨0, 0⟩⟩, ⟨60724864800, ⟨60, 60⟩⟩, ⟨60738170400, ⟨0, 0⟩⟩,
     ⟨60756314400, ⟨60, 60⟩⟩, ⟨60770829600, ⟨0, 0⟩⟩, ⟨60787159200, ⟨60, 60⟩⟩,
     ⟨60802279200, ⟨0, 0⟩⟩, ⟨60819818400, ⟨60, 60⟩⟩, ⟨60834333600, ⟨0, 0⟩⟩,
     ⟨60851268000, ⟨60, 60⟩⟩, ⟨60865783200, ⟨0, 0⟩⟩, ⟨60882112800, ⟨60, 60⟩⟩,
     ⟨60897232800, ⟨0, 0⟩⟩, ⟨60914167200, ⟨60, 60⟩⟩, ⟨60928682400, ⟨0, 0⟩⟩,
     ⟨60945616800, ⟨60, 60⟩⟩, ⟨60960132000, ⟨0, 0⟩⟩, ⟨60976461600, ⟨60, 60⟩⟩,
     ⟨60992186400, ⟨0, 0⟩⟩, ⟨61009120800, ⟨60, 60⟩⟩, ⟨61023636000, ⟨0, 0⟩⟩,
     ⟨61039965600, ⟨60, 60⟩⟩, ⟨61055085600, ⟨0, 0⟩⟩, ⟨61072020000, ⟨60, 60⟩⟩,
     ⟨61086535200, ⟨0, 0⟩⟩, ⟨61103469600, ⟨60, 60⟩⟩, ⟨61117984800, ⟨0, 0⟩⟩,
     ⟨61134314400, ⟨60, 60⟩⟩, ⟨61149434400, ⟨0, 0⟩⟩, ⟨61166368800, ⟨60, 60⟩⟩,
     ⟨61185117600, ⟨0, 0⟩⟩, ⟨61193584800, ⟨60, 60⟩⟩, ⟨61402240800, ⟨0, 0⟩⟩,
     ⟨61416151200, ⟨60, 60⟩⟩, ⟨61436109600, ⟨0, 0⟩⟩, ⟨61450624800, ⟨60, 60⟩⟩,
     ⟨61467559200, ⟨0, 0⟩⟩, ⟨61480864800, ⟨60, 60⟩⟩, ⟨61499008800, ⟨0, 0⟩⟩,
     ⟨61513524000, ⟨60, 60⟩⟩, ⟨61529853600, ⟨0, 0⟩⟩, ⟨61544973600, ⟨60, 60⟩⟩,
     ⟨61561303200, ⟨0, 0⟩⟩, ⟨61577028000, ⟨60, 60⟩⟩, ⟨61593357600, ⟨0, 0⟩⟩,
     ⟨61608477600, ⟨60, 60⟩⟩, ⟨61622992800, ⟨0, 0⟩⟩, ⟨61639322400, ⟨60, 60⟩⟩,
     ⟨61654442400, ⟨0, 0⟩⟩, ⟨61671376800, ⟨60, 60⟩⟩, ⟨61685892000, ⟨0, 0⟩⟩,
     ⟨61703431200, ⟨60, 60⟩⟩, ⟨61717946400, ⟨0, 0⟩⟩, ⟨61734276000, ⟨60, 60⟩⟩,
     ⟨61749396000, ⟨0, 0⟩⟩, ⟨61766330400, ⟨60, 60⟩⟩, ⟨61780845600, ⟨0, 0⟩⟩,
     ⟨61797780000, ⟨60, 60⟩⟩, ⟨61812295200, ⟨0, 0⟩⟩, ⟨61828624800, ⟨60, 60⟩⟩,
     ⟨61843744800, ⟨0, 0⟩⟩, ⟨61858864800, ⟨60, 60⟩⟩, ⟨61877613600, ⟨0, 0⟩⟩,
     ⟨61890314400, ⟨60, 60⟩⟩, ⟨61909063200, ⟨0, 0⟩⟩, ⟨61922368800, ⟨60, 60⟩⟩,
     ⟨61940512800, ⟨0, 0⟩⟩, ⟨61953213600, ⟨60, 60⟩⟩, ⟨61971962400, ⟨0, 0⟩⟩,
     ⟨61984663200, ⟨60, 60⟩⟩, ⟨62003412000, ⟨0, 0⟩⟩, ⟨62016112800, ⟨60, 60⟩⟩,
     ⟨62034861600, ⟨0, 0⟩⟩, ⟨62047562400, ⟨60, 60⟩⟩, ⟨62066916000, ⟨0, 0⟩⟩,
     ⟨62076592800, ⟨60, 60⟩⟩, ⟨62098354800, ⟨60, 0⟩⟩, ⟨62193319200, ⟨0, -60⟩⟩,
     ⟨62205415200, ⟨60, 0⟩⟩, ⟨62224768800, ⟨0, -60⟩⟩, ⟨62236864800, ⟨60, 0⟩⟩,
     ⟨62256218400, ⟨0, -60⟩⟩, ⟨62268314400, ⟨60, 0⟩⟩, ⟨62287668000, ⟨0, -60⟩⟩,
     ⟨62299764000, ⟨60, 0⟩⟩, ⟨62319117600, ⟨0, -60⟩⟩, ⟨62331818400, ⟨60, 0⟩⟩,
     ⟨62350567200, ⟨0, -60⟩⟩, ⟨62363268000, ⟨60, 0⟩⟩, ⟨62382016800, ⟨0, -60⟩⟩,
     ⟨62394717600, ⟨60, 0⟩⟩, ⟨62414071200, ⟨0, -60⟩⟩, ⟨62426167200, ⟨60, 0⟩⟩,
     ⟨62445520800, ⟨0, -60⟩⟩, ⟨62457616800, ⟨60, 0⟩⟩, ⟨62476970400, ⟨0, -60⟩⟩,
     ⟨62490272400, ⟨60, 0⟩⟩, ⟨62508416400, ⟨0, -60⟩⟩, ⟨62521722000, ⟨60, 0⟩⟩,
     ⟨62539866000, ⟨0, -60⟩⟩, ⟨62553171600, ⟨60, 0⟩⟩, ⟨62571315600, ⟨0, -60⟩⟩,
     ⟨62584621200, ⟨60, 0⟩⟩, ⟨62603370000, ⟨0, -60⟩⟩, ⟨62616675600, ⟨60, 0⟩⟩,
     ⟨62634819600, ⟨0, -60⟩⟩, ⟨62648125200, ⟨60, 0⟩⟩, ⟨62666269200, ⟨0, -60⟩⟩,
     ⟨62679574800, ⟨60, 0⟩⟩, ⟨62697718800, ⟨0, -60⟩⟩, ⟨62711024400, ⟨60, 0⟩⟩,
     ⟨62729168400, ⟨0, -60⟩⟩, ⟨62742474000, ⟨60, 0⟩⟩, ⟨62761222800, ⟨0, -60⟩⟩,
     ⟨62773923600, ⟨60, 0⟩⟩, ⟨62792672400, ⟨0, -60⟩⟩, ⟨62805978000, ⟨60, 0⟩⟩,
     ⟨62824122000, ⟨0, -60⟩⟩, ⟨62837427600, ⟨60, 0⟩⟩, ⟨62855571600, ⟨0, -60⟩⟩,
     ⟨62868877200, ⟨60, 0⟩⟩, ⟨62887021200, ⟨0, -60⟩⟩, ⟨62900326800, ⟨60, 0⟩⟩,
     ⟨62918470800, ⟨0, -60⟩⟩, ⟨62931776400, ⟨60, 0⟩⟩, ⟨62949920400, ⟨0, -60⟩⟩,
     ⟨62963830800, ⟨60, 0⟩⟩, ⟨62981974800, ⟨0, -60⟩⟩, ⟨62995280400, ⟨60, 0⟩⟩,
     ⟨63013424400, ⟨0, -60⟩⟩, ⟨63026730000, ⟨60, 0⟩⟩, ⟨63044874000, ⟨0, -60⟩⟩,
     ⟨63058179600, ⟨60, 0⟩⟩, ⟨63076928400, ⟨0, -60⟩⟩, ⟨63089629200, ⟨60, 0⟩⟩,
     ⟨63108378000, ⟨0, -60⟩⟩, ⟨63121078800, ⟨60, 0⟩⟩, ⟨63139827600, ⟨0, -60⟩⟩,
     ⟨63153133200, ⟨60, 0⟩⟩, ⟨63171277200, ⟨0, -60⟩⟩, ⟨63184582800, ⟨60, 0⟩⟩,
     ⟨63202726800, ⟨0, -60⟩⟩, ⟨63216032400, ⟨60, 0⟩⟩, ⟨63234781200, ⟨0, -60⟩⟩,
     ⟨63247482000, ⟨60, 0⟩⟩, ⟨63266230800, ⟨0, -60⟩⟩, ⟨63278931600, ⟨60, 0⟩⟩,
     ⟨63297680400, ⟨0, -60⟩⟩, ⟨63310381200, ⟨60, 0⟩⟩, ⟨63329130000, ⟨0, -60⟩⟩,
     ⟨63342435600, ⟨60, 0⟩⟩, ⟨63360579600, ⟨0, -60⟩⟩, ⟨63373885200, ⟨60, 0⟩⟩,
     ⟨63392029200, ⟨0, -60⟩⟩, ⟨63405334800, ⟨60, 0⟩⟩, ⟨63424083600, ⟨0, -60⟩⟩,
     ⟨63436784400, ⟨60, 0⟩⟩, ⟨63455533200, ⟨0, -60⟩⟩, ⟨63468234000, ⟨60, 0⟩⟩,
     ⟨63486982800, ⟨0, -60⟩⟩, ⟨63500288400, ⟨60, 0⟩⟩, ⟨63518432400, ⟨0, -60⟩⟩,
     ⟨63531738000, ⟨60, 0⟩⟩, ⟨63549882000, ⟨0, -60⟩⟩, ⟨63563187600, ⟨60, 0⟩⟩,
     ⟨63581331600, ⟨0, -60⟩⟩, ⟨63594637200, ⟨60, 0⟩⟩, ⟨63613386000, ⟨0, -60⟩⟩,
     ⟨63626086800, ⟨60, 0⟩⟩, ⟨63644835600, ⟨0, -60⟩⟩, ⟨63657536400, ⟨60, 0⟩⟩,
     ⟨63676285200, ⟨0, -60⟩⟩, ⟨63689590800, ⟨60, 0⟩⟩, ⟨63707734800, ⟨0, -60⟩⟩,
     ⟨63721040400, ⟨60, 0⟩⟩, ⟨63739184400, ⟨0, -60⟩⟩, ⟨63752490000, ⟨60, 0⟩⟩,
     ⟨63771238800, ⟨0, -60⟩⟩, ⟨63783939600, ⟨60, 0⟩⟩, ⟨63802688400, ⟨0, -60⟩⟩,
     ⟨63815389200, ⟨60, 0⟩⟩, ⟨63834138000, ⟨0, -60⟩⟩, ⟨63847443600, ⟨60, 0⟩⟩,
     ⟨63865587600, ⟨0, -60⟩⟩, ⟨63878893200, ⟨60, 0⟩⟩, ⟨63897037200, ⟨0, -60⟩⟩,
     ⟨63910342800, ⟨60, 0⟩⟩, ⟨63928486800, ⟨0, -60⟩⟩, ⟨63941792400, ⟨60, 0⟩⟩,
     ⟨63960541200, ⟨0, -60⟩⟩, ⟨63973242000, ⟨60, 0⟩⟩, ⟨63991990800, ⟨0, -60⟩⟩,
     ⟨64004691600, ⟨60, 0⟩⟩, ⟨64023440400, ⟨0, -60⟩⟩, ⟨64036746000, ⟨60, 0⟩⟩,
     ⟨64054890000, ⟨0, -60⟩⟩, ⟨64068195600, ⟨60, 0⟩⟩, ⟨64086339600, ⟨0, -60⟩⟩,
     ⟨64099645200, ⟨60, 0⟩⟩, ⟨64118394000, ⟨0, -60⟩⟩, ⟨64131094800, ⟨60, 0⟩⟩,
     ⟨64149843600, ⟨0, -60⟩⟩, ⟨64162544400, ⟨60, 0⟩⟩, ⟨64181293200, ⟨0, -60⟩⟩,
     ⟨64193994000, ⟨60, 0⟩⟩, ⟨64212742800, ⟨0, -60⟩⟩, ⟨64226048400, ⟨60, 0⟩⟩,
     ⟨64244192400, ⟨0, -60⟩⟩, ⟨64257498000, ⟨60, 0⟩⟩, ⟨64275642000, ⟨0, -60⟩⟩]

def berlin : ZoneTable where
  first := ⟨53, 0⟩
  changes :=
    [⟨59988113152, ⟨60, 0⟩⟩, ⟨60441890400, ⟨120, 60⟩⟩, ⟨60455113200, ⟨60, 0⟩⟩,
     ⟨60472141200, ⟨120, 60⟩⟩, ⟨60485446800, ⟨60, 0⟩⟩, ⟨60503590800, ⟨120, 60⟩⟩,
     ⟨60516896400, ⟨60, 0⟩⟩, ⟨61196691600, ⟨120, 60⟩⟩, ⟨61278339600, ⟨60, 0⟩⟩,
     ⟨61291040400, ⟨120, 60⟩⟩, ⟨61307370000, ⟨60, 0⟩⟩, ⟨61323094800, ⟨120, 60⟩⟩,
     ⟨61338819600, ⟨60, 0⟩⟩, ⟨61354544400, ⟨120, 60⟩⟩, ⟨61359033600, ⟨180, 120⟩⟩,
     ⟨61369660800, ⟨120, 60⟩⟩, ⟨61374416400, ⟨60, 0⟩⟩, ⟨61387117200, ⟨120, 60⟩⟩,
     ⟨61402323600, ⟨60, 0⟩⟩, ⟨61417965600, ⟨120, 60⟩⟩, ⟨61420986000, ⟨180, 120⟩⟩,
     ⟨61425216000, ⟨120, 60⟩⟩, ⟨61433686800, ⟨60, 0⟩⟩, ⟨61450621200, ⟨120, 60⟩⟩,
     ⟨61465136400, ⟨60, 0⟩⟩, ⟨61481466000, ⟨120, 60⟩⟩, ⟨61496586000, ⟨60, 0⟩⟩,
     ⟨62459427600, ⟨120, 60⟩⟩, ⟨62474547600, ⟨60, 0⟩⟩, ⟨62490272400, ⟨120, 60⟩⟩,
     ⟨62505997200, ⟨60, 0⟩⟩, ⟨62521722000, ⟨120, 60⟩⟩, ⟨62537446800, ⟨60, 0⟩⟩,
     ⟨62553171600, ⟨120, 60⟩⟩, ⟨62568896400, ⟨60, 0⟩⟩, ⟨62584621200, ⟨120, 60⟩⟩,
     ⟨62600950800, ⟨60, 0⟩⟩, ⟨62616675600, ⟨120, 60⟩⟩, ⟨62632400400, ⟨60, 0⟩⟩,
     ⟨62648125200, ⟨120, 60⟩⟩, ⟨62663850000, ⟨60, 0⟩⟩, ⟨62679574800, ⟨120, 60⟩⟩,
     ⟨62695299600, ⟨60, 0⟩⟩, ⟨62711024400, ⟨120, 60⟩⟩, ⟨62726749200, ⟨60, 0⟩⟩,
     ⟨62742474000, ⟨120, 60⟩⟩, ⟨62758198800, ⟨60, 0⟩⟩, ⟨62773923600, ⟨120, 60⟩⟩,
     ⟨62790253200, ⟨60, 0⟩⟩, ⟨62805978000, ⟨120, 60⟩⟩, ⟨62821702800, ⟨60, 0⟩⟩,
     ⟨62837427600, ⟨120, 60⟩⟩, ⟨62853152400, ⟨60, 0⟩⟩, ⟨62868877200, ⟨120, 60⟩⟩,
     ⟨62884602000, ⟨60, 0⟩⟩, ⟨62900326800, ⟨120, 60⟩⟩, ⟨62916051600, ⟨60, 0⟩⟩,
     ⟨62931776400, ⟨120, 60⟩⟩, ⟨62947501200, ⟨60, 0⟩⟩, ⟨62963830800, ⟨120, 60⟩⟩,
     ⟨62981974800, ⟨60, 0⟩⟩, ⟨62995280400, ⟨120, 60⟩⟩, ⟨63013424400, ⟨60, 0⟩⟩,
     ⟨63026730000, ⟨120, 60⟩⟩, ⟨63044874000, ⟨60, 0⟩⟩, ⟨63058179600, ⟨120, 60⟩⟩,
     ⟨63076928400, ⟨60, 0⟩⟩, ⟨63089629200, ⟨120, 60⟩⟩, ⟨63108378000, ⟨60, 0⟩⟩,
     ⟨63121078800, ⟨120, 60⟩⟩, ⟨63139827600, ⟨60, 0⟩⟩, ⟨63153133200, ⟨120, 60⟩⟩,
     ⟨63171277200, ⟨60, 0⟩⟩, ⟨63184582800, ⟨120, 60⟩⟩, ⟨63202726800, ⟨60, 0⟩⟩,
     ⟨63216032400, ⟨120, 60⟩⟩, ⟨63234781200, ⟨60, 0⟩⟩, ⟨63247482000, ⟨120, 60⟩⟩,
     ⟨63266230800, ⟨60, 0⟩⟩, ⟨63278931600, ⟨120, 60⟩⟩, ⟨63297680400, ⟨60, 0⟩⟩,
     ⟨63310381200, ⟨120, 60⟩⟩, ⟨63329130000, ⟨60, 0⟩⟩, ⟨63342435600, ⟨120, 60⟩⟩,
     ⟨63360579600, ⟨60, 0⟩⟩, ⟨63373885200, ⟨120, 60⟩⟩, ⟨63392029200, ⟨60, 0⟩⟩,
     ⟨63405334800, ⟨120, 60⟩⟩, ⟨63424083600, ⟨60, 0⟩⟩, ⟨63436784400, ⟨120, 60⟩⟩,
     ⟨63455533200, ⟨60, 0⟩⟩, ⟨63468234000, ⟨120, 60⟩⟩, ⟨63486982800, ⟨60, 0⟩⟩,
     ⟨63500288400, ⟨120, 60⟩⟩, ⟨63518432400, ⟨60, 0⟩⟩, ⟨63531738000, ⟨120, 60⟩⟩,
     ⟨63549882000, ⟨60, 0⟩⟩, ⟨63563187600, ⟨120, 60⟩⟩, ⟨63581331600, ⟨60, 0⟩⟩,
     ⟨63594637200, ⟨120, 60⟩⟩, ⟨63613386000, ⟨60, 0⟩⟩, ⟨63626086800, ⟨120, 60⟩⟩,
     ⟨63644835600, ⟨60, 0⟩⟩, ⟨63657536400, ⟨120, 60⟩⟩, ⟨63676285200, ⟨60, 0⟩⟩,
     ⟨63689590800, ⟨120, 60⟩⟩, ⟨63707734800, ⟨60, 0⟩⟩, ⟨63721040400, ⟨120, 60⟩⟩,
     ⟨63739184400, ⟨60, 0⟩⟩, ⟨63752490000, ⟨120, 60⟩⟩, ⟨63771238800, ⟨60, 0⟩⟩,
     ⟨63783939600, ⟨120, 60⟩⟩, ⟨63802688400, ⟨60, 0⟩⟩, ⟨63815389200, ⟨120, 60⟩⟩,
     ⟨63834138000, ⟨60, 0⟩⟩, ⟨63847443600, ⟨120, 60⟩⟩, ⟨63865587600, ⟨60, 0⟩⟩,
     ⟨63878893200, ⟨120, 60⟩⟩, ⟨63897037200, ⟨60, 0⟩⟩, ⟨63910342800, ⟨120, 60⟩⟩,
     ⟨63928486800, ⟨60, 0⟩⟩, ⟨63941792400, ⟨120, 60⟩⟩, ⟨63960541200, ⟨60, 0⟩⟩,
     ⟨63973242000, ⟨120, 60⟩⟩, ⟨63991990800, ⟨60, 0⟩⟩, ⟨64004691600, ⟨120, 60⟩⟩,
     ⟨64023440400, ⟨60, 0⟩⟩, ⟨64036746000, ⟨120, 60⟩⟩, ⟨64054890000, ⟨60, 0⟩⟩,
     ⟨64068195600, ⟨120, 60⟩⟩, ⟨64086339600, ⟨60, 0⟩⟩, ⟨64099645200, ⟨120, 60⟩⟩,
     ⟨64118394000, ⟨60, 0⟩⟩, ⟨64131094800, ⟨120, 60⟩⟩, ⟨64149843600, ⟨60, 0⟩⟩,
     ⟨64162544400, ⟨120, 60⟩⟩, ⟨64181293200, ⟨60, 0⟩⟩, ⟨64193994000, ⟨120, 60⟩⟩,
     ⟨64212742800, ⟨60, 0⟩⟩, ⟨64226048400, ⟨120, 60⟩⟩, ⟨64244192400, ⟨60, 0⟩⟩,
     ⟨64257498000, ⟨120, 60⟩⟩, ⟨64275642000, ⟨60, 0⟩⟩]

end DependencyGate.Time.ZoneData
