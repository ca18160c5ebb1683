import DependencyGate.Time.Zone

/-!
# American clocks

The offset changes of America/New_York, America/Sao_Paulo and America/Havana,
each with the UTC second it takes effect at, counted from the start of year 1, and the
offset and daylight share in minutes that it brings.
-/

namespace DependencyGate.Time.ZoneData

def newYork : ZoneTable where
  first := ⟨-296, 0⟩
  changes :=
    [⟨59988113152, ⟨-300, 0⟩⟩, ⟨60502316400, ⟨-240, 60⟩⟩, ⟨60520456800, ⟨-300, 0⟩⟩,
     ⟨60533766000, ⟨-240, 60⟩⟩, ⟨60551906400, ⟨-300, 0⟩⟩, ⟨60565215600, ⟨-240, 60⟩⟩,
     ⟨60583960800, ⟨-300, 0⟩⟩, ⟨60599084400, ⟨-240, 60⟩⟩, ⟨60612386400, ⟨-300, 0⟩⟩,
     ⟨60631138800, ⟨-240, 60⟩⟩, ⟨60643836000, ⟨-300, 0⟩⟩, ⟨60662588400, ⟨-240, 60⟩⟩,
     ⟨60675890400, ⟨-300, 0⟩⟩, ⟨60694038000, ⟨-240, 60⟩⟩, ⟨60707340000, ⟨-300, 0⟩⟩,
     ⟨60725487600, ⟨-240, 60⟩⟩, ⟨60738789600, ⟨-300, 0⟩⟩, ⟨60756937200, ⟨-240, 60⟩⟩,
     ⟨60770239200, ⟨-300, 0⟩⟩, ⟨60788386800, ⟨-240, 60⟩⟩, ⟨60801688800, ⟨-300, 0⟩⟩,
     ⟨60820441200, ⟨-240, 60⟩⟩, ⟨60833743200, ⟨-300, 0⟩⟩, ⟨60851890800, ⟨-240, 60⟩⟩,
     ⟨60865192800, ⟨-300, 0⟩⟩, ⟨60883340400, ⟨-240, 60⟩⟩, ⟨60896642400, ⟨-300, 0⟩⟩,
     ⟨60914790000, ⟨-240, 60⟩⟩, ⟨60928092000, ⟨-300, 0⟩⟩, ⟨60946239600, ⟨-240, 60⟩⟩,
     ⟨60959541600, ⟨-300, 0⟩⟩, ⟨60978294000, ⟨-240, 60⟩⟩, ⟨60990991200, ⟨-300, 0⟩⟩,
     ⟨61009743600, ⟨-240, 60⟩⟩, ⟨61023045600, ⟨-300, 0⟩⟩, ⟨61041193200, ⟨-240, 60⟩⟩,
     ⟨61054495200, ⟨-300, 0⟩⟩, ⟨61072642800, ⟨-240, 60⟩⟩, ⟨61085944800, ⟨-300, 0⟩⟩,
     ⟨61104092400, ⟨-240, 60⟩⟩, ⟨61117394400, ⟨-300, 0⟩⟩, ⟨61135542000, ⟨-240, 60⟩⟩,
     ⟨61148844000, ⟨-300, 0⟩⟩, ⟨61167596400, ⟨-240, 60⟩⟩, ⟨61180293600, ⟨-300, 0⟩⟩,
     ⟨61199046000, ⟨-240, 60⟩⟩, ⟨61212348000, ⟨-300, 0⟩⟩, ⟨61230495600, ⟨-240, 60⟩⟩,
     ⟨61243797600, ⟨-300, 0⟩⟩, ⟨61255378800, ⟨-240, 60⟩⟩, ⟨61366201200, ⟨-240, 60⟩⟩,
     ⟨61370200800, ⟨-300, 0⟩⟩, ⟨61388348400, ⟨-240, 60⟩⟩, ⟨61401650400, ⟨-300, 0⟩⟩,
     ⟨61419798000, ⟨-240, 60⟩⟩, ⟨61433100000, ⟨-300, 0⟩⟩, ⟨61451247600, ⟨-240, 60⟩⟩,
     ⟨61464549600, ⟨-300, 0⟩⟩, ⟨61482697200, ⟨-240, 60⟩⟩, ⟨61495999200, ⟨-300, 0⟩⟩,
     ⟨61514751600, ⟨-240, 60⟩⟩, ⟨61527448800, ⟨-300, 0⟩⟩, ⟨61546201200, ⟨-240, 60⟩⟩,
     ⟨61559503200, ⟨-300, 0⟩⟩, ⟨61577650800, ⟨-240, 60⟩⟩, ⟨61590952800, ⟨-300, 0⟩⟩,
     ⟨61609100400, ⟨-240, 60⟩⟩, ⟨61622402400, ⟨-300, 0⟩⟩, ⟨61640550000, ⟨-240, 60⟩⟩,
     ⟨61653852000, ⟨-300, 0⟩⟩, ⟨61671999600, ⟨-240, 60⟩⟩, ⟨61688325600, ⟨-300, 0⟩⟩,
     ⟨61704054000, ⟨-240, 60⟩⟩, ⟨61719775200, ⟨-300, 0⟩⟩, ⟨61735503600, ⟨-240, 60⟩⟩,
     ⟨61751224800, ⟨-300, 0⟩⟩, ⟨61766953200, ⟨-240, 60⟩⟩, ⟨61782674400, ⟨-300, 0⟩⟩,
     ⟨61798402800, ⟨-240, 60⟩⟩, ⟨61814124000, ⟨-300, 0⟩⟩, ⟨61829852400, ⟨-240, 60⟩⟩,
     ⟨61846178400, ⟨-300, 0⟩⟩, ⟨61861906800, ⟨-240, 60⟩⟩, ⟨61877628000, ⟨-300, 0⟩⟩,
     ⟨61893356400, ⟨-240, 60⟩⟩, ⟨61909077600, ⟨-300, 0⟩⟩, ⟨61924806000, ⟨-240, 60⟩⟩,
     ⟨61940527200, ⟨-300, 0⟩⟩, ⟨61956255600, ⟨-240, 60⟩⟩, ⟨61971976800, ⟨-300, 0⟩⟩,
     ⟨61987705200, ⟨-240, 60⟩⟩, ⟨62004031200, ⟨-300, 0⟩⟩, ⟨62019154800, ⟨-240, 60⟩⟩,
     ⟨62035480800, ⟨-300, 0⟩⟩, ⟨62051209200, ⟨-240, 60⟩⟩, ⟨62066930400, ⟨-300, 0⟩⟩,
     ⟨62082658800, ⟨-240, 60⟩⟩, ⟨62098380000, ⟨-300, 0⟩⟩, ⟨62114108400, ⟨-240, 60⟩⟩,
     ⟨62129829600, ⟨-300, 0⟩⟩, ⟨62145558000, ⟨-240, 60⟩⟩, ⟨62161279200, ⟨-300, 0⟩⟩,
     ⟨62177007600, ⟨-240, 60⟩⟩, ⟨62193333600, ⟨-300, 0⟩⟩, ⟨62209062000, ⟨-240, 60⟩⟩,
     ⟨62224783200, ⟨-300, 0⟩⟩, ⟨62240511600, ⟨-240, 60⟩⟩, ⟨62256232800, ⟨-300, 0⟩⟩,
     ⟨62262284400, ⟨-240, 60⟩⟩, ⟨62287682400, ⟨-300, 0⟩⟩, ⟨62297967600, ⟨-240, 60⟩⟩,
     ⟨62319132000, ⟨-300, 0⟩⟩, ⟨62334860400, ⟨-240, 60⟩⟩, ⟨62351186400, ⟨-300, 0⟩⟩,
     ⟨62366310000, ⟨-240, 60⟩⟩, ⟨62382636000, ⟨-300, 0⟩⟩, ⟨62398364400, ⟨-240, 60⟩⟩,
     ⟨62414085600, ⟨-300, 0⟩⟩, ⟨62429814000, ⟨-240, 60⟩⟩, ⟨62445535200, ⟨-300, 0⟩⟩,
     ⟨62461263600, ⟨-240, 60⟩⟩, ⟨62476984800, ⟨-300, 0⟩⟩, ⟨62492713200, ⟨-240, 60⟩⟩,
     ⟨62508434400, ⟨-300, 0⟩⟩, ⟨62524162800, ⟨-240, 60⟩⟩, ⟨62540488800, ⟨-300, 0⟩⟩,
     ⟨62555612400, ⟨-240, 60⟩⟩, ⟨62571938400, ⟨-300, 0⟩⟩, ⟨62587666800, ⟨-240, 60⟩⟩,
     ⟨62603388000, ⟨-300, 0⟩⟩, ⟨62619116400, ⟨-240, 60⟩⟩, ⟨62634837600, ⟨-300, 0⟩⟩,
     ⟨62650566000, ⟨-240, 60⟩⟩, ⟨62666287200, ⟨-300, 0⟩⟩, ⟨62680201200, ⟨-240, 60⟩⟩,
     ⟨62697736800, ⟨-300, 0⟩⟩, ⟨62711650800, ⟨-240, 60⟩⟩, ⟨62729791200, ⟨-300, 0⟩⟩,
     ⟨62743100400, ⟨-240, 60⟩⟩, ⟨62761240800, ⟨-300, 0⟩⟩, ⟨62774550000, ⟨-240, 60⟩⟩,
     ⟨62792690400, ⟨-300, 0⟩⟩, ⟨62806604400, ⟨-240, 60⟩⟩, ⟨62824140000, ⟨-300, 0⟩⟩,
     ⟨62838054000, ⟨-240, 60⟩⟩, ⟨62855589600, ⟨-300, 0⟩⟩, ⟨62869503600, ⟨-240, 60⟩⟩,
     ⟨62887644000, ⟨-300, 0⟩⟩, ⟨62900953200, ⟨-240, 60⟩⟩, ⟨62919093600, ⟨-300, 0⟩⟩,
     ⟨62932402800, ⟨-240, 60⟩⟩, ⟨62950543200, ⟨-300, 0⟩⟩, ⟨62964457200, ⟨-240, 60⟩⟩,
     ⟨62981992800, ⟨-300, 0⟩⟩, ⟨62995906800, ⟨-240, 60⟩⟩, ⟨63013442400, ⟨-300, 0⟩⟩,
     ⟨63027356400, ⟨-240, 60⟩⟩, ⟨63044892000, ⟨-300, 0⟩⟩, ⟨63058806000, ⟨-240, 60⟩⟩,
     ⟨63076946400, ⟨-300, 0⟩⟩, ⟨63090255600, ⟨-240, 60⟩⟩, ⟨63108396000, ⟨-300, 0⟩⟩,
     ⟨63121705200, ⟨-240, 60⟩⟩, ⟨63139845600, ⟨-300, 0⟩⟩, ⟨63153759600, ⟨-240, 60⟩⟩,
     ⟨63171295200, ⟨-300, 0⟩⟩, ⟨63185209200, ⟨-240, 60⟩⟩, ⟨63202744800, ⟨-300, 0⟩⟩,
     ⟨63216658800, ⟨-240, 60⟩⟩, ⟨63234799200, ⟨-300, 0⟩⟩, ⟨63248108400, ⟨-240, 60⟩⟩,
     ⟨63266248800, ⟨-300, 0⟩⟩, ⟨63279558000, ⟨-240, 60⟩⟩, ⟨63297698400, ⟨-300, 0⟩⟩,
     ⟨63309193200, ⟨-240, 60⟩⟩, ⟨63329752800, ⟨-300, 0⟩⟩, ⟨63340642800, ⟨-240, 60⟩⟩,
     ⟨63361202400, ⟨-300, 0⟩⟩, ⟨63372092400, ⟨-240, 60⟩⟩, ⟨63392652000, ⟨-300, 0⟩⟩,
     ⟨63404146800, ⟨-240, 60⟩⟩, ⟨63424706400, ⟨-300, 0⟩⟩, ⟨63435596400, ⟨-240, 60⟩⟩,
     ⟨63456156000, ⟨-300, 0⟩⟩, ⟨63467046000, ⟨-240, 60⟩⟩, ⟨63487605600, ⟨-300, 0⟩⟩,
     ⟨63498495600, ⟨-240, 60⟩⟩, ⟨63519055200, ⟨-300, 0⟩⟩, ⟨63529945200, ⟨-240, 60⟩⟩,
     ⟨63550504800, ⟨-300, 0⟩⟩, ⟨63561394800, ⟨-240, 60⟩⟩, ⟨63581954400, ⟨-300, 0⟩⟩,
     ⟨63593449200, ⟨-240, 60⟩⟩, ⟨63614008800, ⟨-300, 0⟩⟩, ⟨63624898800, ⟨-240, 60⟩⟩,
     ⟨63645458400, ⟨-300, 0⟩⟩, ⟨63656348400, ⟨-240, 60⟩⟩, ⟨63676908000, ⟨-300, 0⟩⟩,
     ⟨63687798000, ⟨-240, 60⟩⟩, ⟨63708357600, ⟨-300, 0⟩⟩, ⟨63719247600, ⟨-240, 60⟩⟩,
     ⟨63739807200, ⟨-300, 0⟩⟩, ⟨63751302000, ⟨-240, 60⟩⟩, ⟨63771861600, ⟨-300, 0⟩⟩,
     ⟨63782751600, ⟨-240, 60⟩⟩, ⟨63803311200, ⟨-300, 0⟩⟩, ⟨63814201200, ⟨-240, 60⟩⟩,
     ⟨63834760800, ⟨-300, 0⟩⟩, ⟨63845650800, ⟨-240, 60⟩⟩, ⟨63866210400, ⟨-300, 0⟩⟩,
     ⟨63877100400, ⟨-240, 60⟩⟩, ⟨63897660000, ⟨-300, 0⟩⟩, ⟨63908550000, ⟨-240, 60⟩⟩,
     ⟨63929109600, ⟨-300, 0⟩⟩, ⟨63940604400, ⟨-240, 60⟩⟩, ⟨63961164000, ⟨-300, 0⟩⟩,
     ⟨63972054000, ⟨-240, 60⟩⟩, ⟨63992613600, ⟨-300, 0⟩⟩, ⟨64003503600, ⟨-240, 60⟩⟩,
     ⟨64024063200, ⟨-300, 0⟩⟩, ⟨64034953200, ⟨-240, 60⟩⟩, ⟨64055512800, ⟨-300, 0⟩⟩,
     ⟨64066402800, ⟨-240, 60⟩⟩, ⟨64086962400, ⟨-300, 0⟩⟩, ⟨64098457200, ⟨-240, 60⟩⟩,
     ⟨64119016800, ⟨-300, 0⟩⟩, ⟨64129906800, ⟨-240, 60⟩⟩, ⟨64150466400, ⟨-300, 0⟩⟩,
     ⟨64161356400, ⟨-240, 60⟩⟩, ⟨64181916000, ⟨-300, 0⟩⟩, ⟨64192806000, ⟨-240, 60⟩⟩,
     ⟨64213365600, ⟨-300, 0⟩⟩, ⟨64224255600, ⟨-240, 60⟩⟩, ⟨64244815200, ⟨-300, 0⟩⟩,
     ⟨64255705200, ⟨-240, 60⟩⟩, ⟨64276264800, ⟨-300, 0⟩⟩]

def saoPaulo : ZoneTable where
  first := ⟨-186, 0⟩
  changes :=
    [⟨60368382388, ⟨-180, 0⟩⟩, ⟨60928639200, ⟨-120, 60⟩⟩, ⟨60944234400, ⟨-180, 0⟩⟩,
     ⟨60960222000, ⟨-120, 60⟩⟩, ⟨60975770400, ⟨-180, 0⟩⟩, ⟨61501777200, ⟨-120, 60⟩⟩,
     ⟨61513527600, ⟨-180, 0⟩⟩, ⟨61533313200, ⟨-120, 60⟩⟩, ⟨61543764000, ⟨-180, 0⟩⟩,
     ⟨61564849200, ⟨-120, 60⟩⟩, ⟨61575386400, ⟨-180, 0⟩⟩, ⟨61596471600, ⟨-120, 60⟩⟩,
     ⟨61604244000, ⟨-180, 0⟩⟩, ⟨61940170800, ⟨-120, 60⟩⟩, ⟨61951399200, ⟨-180, 0⟩⟩,
     ⟨61980433200, ⟨-120, 60⟩⟩, ⟨61985613600, ⟨-180, 0⟩⟩, ⟨62006698800, ⟨-120, 60⟩⟩,
     ⟨62014474800, ⟨-180, 0⟩⟩, ⟨62035642800, ⟨-120, 60⟩⟩, ⟨62046007200, ⟨-180, 0⟩⟩,
     ⟨62067178800, ⟨-120, 60⟩⟩, ⟨62077629600, ⟨-180, 0⟩⟩, ⟨62635345200, ⟨-120, 60⟩⟩,
     ⟨62646832800, ⟨-180, 0⟩⟩, ⟨62666190000, ⟨-120, 60⟩⟩, ⟨62675863200, ⟨-180, 0⟩⟩,
     ⟨62697726000, ⟨-120, 60⟩⟩, ⟨62706794400, ⟨-180, 0⟩⟩, ⟨62728570800, ⟨-120, 60⟩⟩,
     ⟨62737639200, ⟨-180, 0⟩⟩, ⟨62760020400, ⟨-120, 60⟩⟩, ⟨62770298400, ⟨-180, 0⟩⟩,
     ⟨62792074800, ⟨-120, 60⟩⟩, ⟨62802352800, ⟨-180, 0⟩⟩, ⟨62823524400, ⟨-120, 60⟩⟩,
     ⟨62833197600, ⟨-180, 0⟩⟩, ⟨62855578800, ⟨-120, 60⟩⟩, ⟨62864042400, ⟨-180, 0⟩⟩,
     ⟨62886423600, ⟨-120, 60⟩⟩, ⟨62897306400, ⟨-180, 0⟩⟩, ⟨62917873200, ⟨-120, 60⟩⟩,
     ⟨62928756000, ⟨-180, 0⟩⟩, ⟨62949322800, ⟨-120, 60⟩⟩, ⟨62959600800, ⟨-180, 0⟩⟩,
     ⟨62980167600, ⟨-120, 60⟩⟩, ⟨62991655200, ⟨-180, 0⟩⟩, ⟨63011703600, ⟨-120, 60⟩⟩,
     ⟨63024314400, ⟨-180, 0⟩⟩, ⟨63043671600, ⟨-120, 60⟩⟩, ⟨63055159200, ⟨-180, 0⟩⟩,
     ⟨63074516400, ⟨-120, 60⟩⟩, ⟨63087213600, ⟨-180, 0⟩⟩, ⟨63106570800, ⟨-120, 60⟩⟩,
     ⟨63118058400, ⟨-180, 0⟩⟩, ⟨63138625200, ⟨-120, 60⟩⟩, ⟨63149508000, ⟨-180, 0⟩⟩,
     ⟨63171889200, ⟨-120, 60⟩⟩, ⟨63180957600, ⟨-180, 0⟩⟩, ⟨63202129200, ⟨-120, 60⟩⟩,
     ⟨63212407200, ⟨-180, 0⟩⟩, ⟨63234961200, ⟨-120, 60⟩⟩, ⟨63244461600, ⟨-180, 0⟩⟩,
     ⟨63265028400, ⟨-120, 60⟩⟩, ⟨63275911200, ⟨-180, 0⟩⟩, ⟨63298292400, ⟨-120, 60⟩⟩,
     ⟨63307965600, ⟨-180, 0⟩⟩, ⟨63327927600, ⟨-120, 60⟩⟩, ⟨63338810400, ⟨-180, 0⟩⟩,
     ⟨63359982000, ⟨-120, 60⟩⟩, ⟨63370260000, ⟨-180, 0⟩⟩, ⟨63391431600, ⟨-120, 60⟩⟩,
     ⟨63402314400, ⟨-180, 0⟩⟩, ⟨63422881200, ⟨-120, 60⟩⟩, ⟨63433764000, ⟨-180, 0⟩⟩,
     ⟨63454330800, ⟨-120, 60⟩⟩, ⟨63465818400, ⟨-180, 0⟩⟩, ⟨63486385200, ⟨-120, 60⟩⟩,
     ⟨63496663200, ⟨-180, 0⟩⟩, ⟨63517834800, ⟨-120, 60⟩⟩, ⟨63528112800, ⟨-180, 0⟩⟩,
     ⟨63549284400, ⟨-120, 60⟩⟩, ⟨63560167200, ⟨-180, 0⟩⟩, ⟨63580734000, ⟨-120, 60⟩⟩,
     ⟨63591616800, ⟨-180, 0⟩⟩, ⟨63612183600, ⟨-120, 60⟩⟩, ⟨63623066400, ⟨-180, 0⟩⟩,
     ⟨63643633200, ⟨-120, 60⟩⟩, ⟨63654516000, ⟨-180, 0⟩⟩, ⟨63676897200, ⟨-120, 60⟩⟩,
     ⟨63685965600, ⟨-180, 0⟩⟩]

def havana : ZoneTable where
  first := ⟨-329, 0⟩
  changes :=
    [⟨59988113152, ⟨-330, 0⟩⟩, ⟨60732782976, ⟨-300, 0⟩⟩, ⟨60824062800, ⟨-240, 60⟩⟩,
     ⟨60834600000, ⟨-300, 0⟩⟩, ⟨61202062800, ⟨-240, 60⟩⟩, ⟨61209921600, ⟨-300, 0⟩⟩,
     ⟨61233512400, ⟨-240, 60⟩⟩, ⟨61241976000, ⟨-300, 0⟩⟩, ⟨61265566800, ⟨-240, 60⟩⟩,
     ⟨61273425600, ⟨-300, 0⟩⟩, ⟨61359915600, ⟨-240, 60⟩⟩, ⟨61367774400, ⟨-300, 0⟩⟩,
     ⟨61391365200, ⟨-240, 60⟩⟩, ⟨61399224000, ⟨-300, 0⟩⟩, ⟨61990894800, ⟨-240, 60⟩⟩,
     ⟨62001345600, ⟨-300, 0⟩⟩, ⟨62022171600, ⟨-240, 60⟩⟩, ⟨62033054400, ⟨-300, 0⟩⟩,
     ⟨62049301200, ⟨-240, 60⟩⟩, ⟨62062689600, ⟨-300, 0⟩⟩, ⟨62081442000, ⟨-240, 60⟩⟩,
     ⟨62094139200, ⟨-300, 0⟩⟩, ⟨62114101200, ⟨-240, 60⟩⟩, ⟨62129822400, ⟨-300, 0⟩⟩,
     ⟨62145550800, ⟨-240, 60⟩⟩, ⟨62161272000, ⟨-300, 0⟩⟩, ⟨62177000400, ⟨-240, 60⟩⟩,
     ⟨62193326400, ⟨-300, 0⟩⟩, ⟨62209054800, ⟨-240, 60⟩⟩, ⟨62222961600, ⟨-300, 0⟩⟩,
     ⟨62240504400, ⟨-240, 60⟩⟩, ⟨62254497600, ⟨-300, 0⟩⟩, ⟨62271954000, ⟨-240, 60⟩⟩,
     ⟨62286033600, ⟨-300, 0⟩⟩, ⟨62303403600, ⟨-240, 60⟩⟩, ⟨62319124800, ⟨-300, 0⟩⟩,
     ⟨62334853200, ⟨-240, 60⟩⟩, ⟨62351179200, ⟨-300, 0⟩⟩, ⟨62366302800, ⟨-240, 60⟩⟩,
     ⟨62382628800, ⟨-300, 0⟩⟩, ⟨62398962000, ⟨-240, 60⟩⟩, ⟨62412264000, ⟨-300, 0⟩⟩,
     ⟨62426178000, ⟨-240, 60⟩⟩, ⟨62444318400, ⟨-300, 0⟩⟩, ⟨62457627600, ⟨-240, 60⟩⟩,
     ⟨62475768000, ⟨-300, 0⟩⟩, ⟨62493915600, ⟨-240, 60⟩⟩, ⟨62507217600, ⟨-300, 0⟩⟩,
     ⟨62525365200, ⟨-240, 60⟩⟩, ⟨62538667200, ⟨-300, 0⟩⟩, ⟨62556814800, ⟨-240, 60⟩⟩,
     ⟨62570116800, ⟨-300, 0⟩⟩, ⟨62588264400, ⟨-240, 60⟩⟩, ⟨62602171200, ⟨-300, 0⟩⟩,
     ⟨62619714000, ⟨-240, 60⟩⟩, ⟨62633620800, ⟨-300, 0⟩⟩, ⟨62646930000, ⟨-240, 60⟩⟩,
     ⟨62665070400, ⟨-300, 0⟩⟩, ⟨62678379600, ⟨-240, 60⟩⟩, ⟨62696520000, ⟨-300, 0⟩⟩,
     ⟨62710434000, ⟨-240, 60⟩⟩, ⟨62727969600, ⟨-300, 0⟩⟩, ⟨62741883600, ⟨-240, 60⟩⟩,
     ⟨62759419200, ⟨-300, 0⟩⟩, ⟨62774542800, ⟨-240, 60⟩⟩, ⟨62791473600, ⟨-300, 0⟩⟩,
     ⟨62806597200, ⟨-240, 60⟩⟩, ⟨62822926800, ⟨-300, 0⟩⟩, ⟨62838046800, ⟨-240, 60⟩⟩,
     ⟨62854376400, ⟨-300, 0⟩⟩, ⟨62869496400, ⟨-240, 60⟩⟩, ⟨62885826000, ⟨-300, 0⟩⟩,
     ⟨62900946000, ⟨-240, 60⟩⟩, ⟨62917275600, ⟨-300, 0⟩⟩, ⟨62932395600, ⟨-240, 60⟩⟩,
     ⟨62948725200, ⟨-300, 0⟩⟩, ⟨62964450000, ⟨-240, 60⟩⟩, ⟨62980174800, ⟨-300, 0⟩⟩,
     ⟨62995899600, ⟨-240, 60⟩⟩, ⟨63012229200, ⟨-300, 0⟩⟩, ⟨63026744400, ⟨-240, 60⟩⟩,
     ⟨63044888400, ⟨-300, 0⟩⟩, ⟨63058194000, ⟨-240, 60⟩⟩, ⟨63076942800, ⟨-300, 0⟩⟩,
     ⟨63090248400, ⟨-240, 60⟩⟩, ⟨63108392400, ⟨-300, 0⟩⟩, ⟨63121698000, ⟨-240, 60⟩⟩,
     ⟨63139842000, ⟨-300, 0⟩⟩, ⟨63153752400, ⟨-240, 60⟩⟩, ⟨63171291600, ⟨-300, 0⟩⟩,
     ⟨63185202000, ⟨-240, 60⟩⟩, ⟨63202741200, ⟨-300, 0⟩⟩, ⟨63216046800, ⟨-240, 60⟩⟩,
     ⟨63297694800, ⟨-300, 0⟩⟩, ⟨63309186000, ⟨-240, 60⟩⟩, ⟨63329144400, ⟨-300, 0⟩⟩,
     ⟨63341240400, ⟨-240, 60⟩⟩, ⟨63360594000, ⟨-300, 0⟩⟩, ⟨63372085200, ⟨-240, 60⟩⟩,
     ⟨63392043600, ⟨-300, 0⟩⟩, ⟨63404139600, ⟨-240, 60⟩⟩, ⟨63424098000, ⟨-300, 0⟩⟩,
     ⟨63436194000, ⟨-240, 60⟩⟩, ⟨63456757200, ⟨-300, 0⟩⟩, ⟨63468853200, ⟨-240, 60⟩⟩,
     ⟨63487602000, ⟨-300, 0⟩⟩, ⟨63498488400, ⟨-240, 60⟩⟩, ⟨63519051600, ⟨-300, 0⟩⟩,
     ⟨63529938000, ⟨-240, 60⟩⟩, ⟨63550501200, ⟨-300, 0⟩⟩, ⟨63561387600, ⟨-240, 60⟩⟩,
     ⟨63581950800, ⟨-300, 0⟩⟩, ⟨63593442000, ⟨-240, 60⟩⟩, ⟨63614005200, ⟨-300, 0⟩⟩,
     ⟨63624891600, ⟨-240, 60⟩⟩, ⟨63645454800, ⟨-300, 0⟩⟩, ⟨63656341200, ⟨-240, 60⟩⟩,
     ⟨63676904400, ⟨-300, 0⟩⟩, ⟨63687790800, ⟨-240, 60⟩⟩, ⟨63708354000, ⟨-300, 0⟩⟩,
     ⟨63719240400, ⟨-240, 60⟩⟩, ⟨63739803600, ⟨-300, 0⟩⟩, ⟨63751294800, ⟨-240, 60⟩⟩,
     ⟨63771858000, ⟨-300, 0⟩⟩, ⟨63782744400, ⟨-240, 60⟩⟩, ⟨63803307600, ⟨-300, 0⟩⟩,
     ⟨63814194000, ⟨-240, 60⟩⟩, ⟨63834757200, ⟨-300, 0⟩⟩, ⟨63845643600, ⟨-240, 60⟩⟩,
     ⟨63866206800, ⟨-300, 0⟩⟩, ⟨63877093200, ⟨-240, 60⟩⟩, ⟨63897656400, ⟨-300, 0⟩⟩,
     ⟨63908542800, ⟨-240, 60⟩⟩, ⟨63961160400, ⟨-300, 0⟩⟩, ⟨63972046800, ⟨-240, 60⟩⟩,
     ⟨63992610000, ⟨-300, 0⟩⟩, ⟨64003496400, ⟨-240, 60⟩⟩, ⟨64024059600, ⟨-300, 0⟩⟩,
     ⟨64034946000, ⟨-240, 60⟩⟩, ⟨64055509200, ⟨-300, 0⟩⟩, ⟨64066395600, ⟨-240, 60⟩⟩,
     ⟨64086958800, ⟨-300, 0⟩⟩, ⟨64098450000, ⟨-240, 60⟩⟩, ⟨64119013200, ⟨-300, 0⟩⟩,
     ⟨64129899600, ⟨-240, 60⟩⟩, ⟨64150462800, ⟨-300, 0⟩⟩, ⟨64161349200, ⟨-240, 60⟩⟩,
     ⟨64181912400, ⟨-300, 0⟩⟩, ⟨64192798800, ⟨-240, 60⟩⟩, ⟨64213362000, ⟨-300, 0⟩⟩,
     ⟨64224248400, ⟨-240, 60⟩⟩, ⟨64244811600, ⟨-300, 0⟩⟩, ⟨64255698000, ⟨-240, 60⟩⟩,
     ⟨64276261200, ⟨-300, 0⟩⟩]

end DependencyGate.Time.ZoneData
