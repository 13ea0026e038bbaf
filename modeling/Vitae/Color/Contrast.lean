import Vitae.Color.Basic

/-!
Relative luminance and contrast. The linear light of each channel value is tabulated in units of
`10 ^ -20`, so luminance is a whole number of units of `10 ^ -24` and contrasts compare exactly. A
contrast that the caller demands is compared in binary arithmetic instead, so that a demand equal to
the contrast of two colours is met by them.
-/

namespace Vitae.Color

open Decimal (Binary64 Number ratioFixed)

/-- Linear light of the channel values 0 to 255, for `v` from 0 to 1: `v / 12.92` at the dark end
and `((v + 0.055) / 1.055) ^ 2.4` elsewhere. -/
def linearLight : Array Nat := #[
  0, 30352698354883752, 60705396709767503, 91058095064651249, 121410793419535006,
  151763491774418741, 182116190129302498, 212468888484186255, 242821586839070012,
  273174285193953726, 303526983548837483, 334653576389916082, 367650732404743589,
  402471701849630662, 439144203741029335, 477695348069372919, 518151670233838596,
  560539162420272286, 604883302285705391, 651209079259447519, 699541018726538687,
  749903204322617534, 802319298538499426, 856812561806930689, 913405870222078718,
  972121732023784914, 1032982302962693645, 1096009400648824579, 1161224517974388491,
  1228648835691587178, 1298303234217301240, 1370208304728968637, 1444384359609254473,
  1520851442291270943, 1599629336550963121, 1680737575288738378, 1764195448838407759,
  1850022012837969701, 1938236095693572289, 2028856305665240056, 2121901037600355464,
  2217388479338738144, 2315336617811040998, 2415763244850475597, 2518685962736163034,
  2624122189484989764, 2732089163907489363, 2842603950442079350, 2955683443780880021,
  3071344373299363453, 3189603307301153157, 3310476657088505525, 3433980680868217034,
  3560131487502034286, 3688945040110003931, 3820437159534650212, 3954623527673283706,
  4091519690685319066, 4231141062080967519, 4373502925697346500, 4518620438567554076,
  4666508633688009472, 4817182422688941895, 4970656598412723226, 5126945837404323775,
  5286064702318024611, 5448027644244236856, 5612849004960009103, 5780543019106722941,
  5951123816298119901, 6124605423161760820, 6301001765316767422, 6480326669290577268,
  6662593864377289177, 6847816984440016630, 7036009569659587570, 7227185068231747889,
  7421356838014962765, 7618538148130785115, 7818742180518632734, 8021982031446832362,
  8228270712981479440, 8437621154414881586, 8650046203654976340, 8865558628577294153,
  9084171118340768347, 9305896284668745133, 9530746663096470450, 9758734714186245718,
  9989872824711389099, 10224173308810131922, 10461648409110418934, 10702310297826761465,
  10946171077829933149, 11193242783690560138, 11443537382697373250, 11697066775851083786,
  11953842798834561634, 12213877222960187185, 12477181756095048759, 12743768043564743242,
  13013647669036429444, 13286832155381797516, 13563332965520566442, 13843161503245182686,
  14126329114027164069, 14412847085805777225, 14702726649759498279, 14995978981060856250,
  15292615199615017252, 15592646370782739518, 15896083506088040660, 16202937563911098962,
  16513219450166760627, 16826940018969074875, 17144110073282259332, 17464740365558503732,
  17788841598362911678, 18116424424986021791, 18447499450044099745, 18782077230067786844,
  19120168274079138437, 19461783044157579536, 19806931955994885874, 20155625379439706668,
  20507873639031692914, 20863687014525575392, 21223075741405522665, 21586050011389926184,
  21952619972926920577, 22322795731680850073, 22696587351009836486, 23074004852434915058,
  23455058216100521662, 23839757381227100197, 24228112246555486009, 24620132670783548279,
  25015828472995343956, 25415209433082674995, 25818285292159581790, 26225065752969622945,
  26635560480286246676, 27049779101306581364, 27467731206038464853, 27889426347681040008,
  28314874042999210735, 28744083772691747525, 29177064981753586537, 29613827079832111266,
  30054379441577649956, 30498731406988627279, 30946892281750854048, 31398871337571754303,
  31854677812509185619, 32314320911295074668, 32777809805654217756, 33245153634617935490,
  33716361504833036733, 34191442490866091886, 34670405635502959951, 35153259950043935778,
  35640014414594350933, 36130677978350950186, 36625259559883949212, 37123768047414912319,
  37626212299090650015, 38132601143253014309, 38642943378704902591, 39157247774972325782,
  39675523072562685067, 40197777983219579179, 40724021190173670393, 41254261348390375286,
  41788507084813747428, 42326766998607168180, 42869049661390662420, 43415363617474894697,
  43965717384091879127, 44520119451622786055, 45078578283822345885, 45641102318040466246,
  46207699965440707235, 46778379611215897826, 47353149614800954526, 47932018310082680213,
  48514994005607037231, 49102084984783561650, 49693299506087040829, 50288645803256870614,
  50888132085493376078, 51491766537652139402, 52099557320435430086, 52711512570581309234,
  53327640401050524499, 53947948901210718287, 54572446137018659762, 55201140151200012163,
  55834038963426790847, 56471150570492922860, 57112482946487308499, 57758044042965062115,
  58407841789116410336, 59061884091933691820, 59720178836376336395, 60382733885533779183,
  61049557080786476249, 61720656241965110578, 62396039167507610923, 63075713634614682945,
  63759687399403264241, 64447968197058214113, 65140563741982415724, 65837481727944846543,
  66538729828227205498, 67244315695768752672, 67954246963309383744, 68668531243531349961,
  69387176129198990804, 70110189193297312027, 70837577989168676318, 71569350050648072870,
  72305512892196932562, 73046074009035366625, 73791040877273084142, 74540420954038744128,
  75294221677607786614, 76052450467529242317, 76815114724750699349, 77582221831742359530,
  78353779152619351667, 79129794033263023412, 79910273801440900865, 80695225766925160471,
  81484657221610123923, 82278575439628354182, 83076987677465463644, 83879901174074000814,
  84687323150985804876, 85499260812423383271, 86315721345410234555, 87136711919879716870,
  87962239688783172564, 88792311788196631728, 89626935337426638650, 90466117439114956955,
  91309865179341920260, 92158185627729460876, 93011085837542373245, 93868572845788800230,
  94730653673319986652, 95597335324928611744, 96468624789446510981, 97344529039841254381,
  98225055033311714503, 99110209711382979414, 100000000000000000000]

def light (c : Channel) : Nat := linearLight.getD c.val 0

/-- Luminance of white. -/
def fullLuminance : Nat := 10000 * 100000000000000000000

def luminance (c : Color) : Nat := 2126 * light c.red + 7152 * light c.green + 722 * light c.blue

/-- Stray light, which is added to both sides of a contrast. -/
def glare : Nat := fullLuminance / 20

/-- Numerator and denominator of the contrast of two colours. -/
def contrast (a b : Color) : Nat × Nat :=
  (glare + max a.luminance b.luminance, glare + min a.luminance b.luminance)

/-- A contrast as a whole number of tenths. -/
structure Threshold where
  tenths : Nat
  deriving DecidableEq, Repr

def contrastAtLeast (a b : Color) (minimum : Threshold) : Bool :=
  let (num, den) := contrast a b
  minimum.tenths * den ≤ 10 * num

/-- Contrast that text and headings need on the page. -/
def textContrast : Threshold := ⟨45⟩

/-- Contrast that muted labels and accents need. -/
def labelContrast : Threshold := ⟨30⟩

/-- Linear light as a binary number. -/
def binaryLight (c : Channel) : Binary64 := Binary64.ofDecimal false (light c) (-20)

def binaryLuminance (c : Color) : Binary64 :=
  let weighted := fun (weight : Nat) (v : Channel) =>
    Binary64.ofDecimal false weight (-4) * binaryLight v
  weighted 2126 c.red + weighted 7152 c.green + weighted 722 c.blue

/-- The contrast of two colours, computed in binary arithmetic from their luminances. -/
def binaryContrast (a b : Color) : Binary64 :=
  let (x, y) := (a.binaryLuminance, b.binaryLuminance)
  let (lighter, darker) := if x < y then (y, x) else (x, y)
  let stray := Binary64.ofDecimal false 5 (-2)
  (lighter + stray) / (darker + stray)

/-- The demand where none is stated: what text needs. -/
def defaultMinimum : Number := .binary (Binary64.ofRatio false 9 2)

/-- Whether two colours have the contrast that is demanded. -/
def meets (minimum : Number) (a b : Color) : Bool := minimum.le (.binary (binaryContrast a b))

def luminanceText (c : Color) : String := ratioFixed false c.luminance fullLuminance 9

def contrastText (a b : Color) : String :=
  let (num, den) := contrast a b
  ratioFixed false num den 9

/-- Dark text on backgrounds lighter than 0.4, white text on the others. -/
def textOn (background : Color) : Color :=
  if 4 * fullLuminance < 10 * background.luminance then darkText else white

def isLight (c : Color) : Bool := fullLuminance < 2 * c.luminance

/-- The steps that are tried towards a readable colour, in per cent. -/
def adjustmentSteps : List Nat := [10, 20, 30, 40, 50, 60, 70, 80, 90]

/-- The colour itself if it is readable on the background, otherwise the first step towards black or
white that is, otherwise a fixed colour. -/
def readableOn (background : Color) (isReadable : Color → Bool) (c : Color) : Color :=
  if isReadable c then c
  else
    let adjust := fun percent => if background.isLight then darkenBy percent c else tintBy percent c
    match adjustmentSteps.find? fun percent => isReadable (adjust percent) with
    | some percent => adjust percent
    | none => if background.isLight then fallbackDark else white

/-- The colour, made readable on white. -/
def readableOnWhite (minimum : Threshold) (c : Color) : Color :=
  readableOn white (fun c => contrastAtLeast c white minimum) c

/-- The colour, made to meet a demanded contrast. -/
def ensureContrast (background : Color) (minimum : Number) (c : Color) : Color :=
  readableOn background (fun c => meets minimum c background) c

end Vitae.Color
