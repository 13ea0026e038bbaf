import Vitae.Style.Choices
import Vitae.Color.Palette

/-!
What each choice of a style stands for: typefaces, sizes, distances and the defaults of the themes.
-/

namespace Vitae

/-- A typeface as the style sheet names it, and where it is loaded from; an empty address means
that another face of the pairing loads it. -/
structure FontFace where
  family : String
  url : String
  deriving DecidableEq, Repr

structure FontPair where
  heading : FontFace
  body : FontFace
  deriving DecidableEq, Repr

def fontUrl (family weights : String) : String :=
  "https://fonts.googleapis.com/css2?family=" ++ family ++ ":wght@" ++ weights ++ "&display=swap"

def FontPairing.faces : FontPairing → FontPair
  | .interInter =>
    ⟨⟨"'Inter', sans-serif", fontUrl "Inter" "400;500;600;700"⟩, ⟨"'Inter', sans-serif", ""⟩⟩
  | .playfairInter =>
    ⟨⟨"'Playfair Display', serif", fontUrl "Playfair+Display" "400;600;700"⟩,
      ⟨"'Inter', sans-serif", fontUrl "Inter" "400;500"⟩⟩
  | .montserratOpenSans =>
    ⟨⟨"'Montserrat', sans-serif", fontUrl "Montserrat" "500;600;700"⟩,
      ⟨"'Open Sans', sans-serif", fontUrl "Open+Sans" "400;600"⟩⟩
  | .ralewayLato =>
    ⟨⟨"'Raleway', sans-serif", fontUrl "Raleway" "500;600;700"⟩,
      ⟨"'Lato', sans-serif", fontUrl "Lato" "400;700"⟩⟩
  | .poppinsNunito =>
    ⟨⟨"'Poppins', sans-serif", fontUrl "Poppins" "500;600;700"⟩,
      ⟨"'Nunito', sans-serif", fontUrl "Nunito" "400;600"⟩⟩
  | .robotoRoboto =>
    ⟨⟨"'Roboto', sans-serif", fontUrl "Roboto" "400;500;700"⟩, ⟨"'Roboto', sans-serif", ""⟩⟩
  | .latoLato => ⟨⟨"'Lato', sans-serif", fontUrl "Lato" "400;700;900"⟩, ⟨"'Lato', sans-serif", ""⟩⟩
  | .merriweatherSourceSans =>
    ⟨⟨"'Merriweather', serif", fontUrl "Merriweather" "400;700"⟩,
      ⟨"'Source Sans 3', sans-serif", fontUrl "Source+Sans+3" "400;600"⟩⟩
  | .oswaldSourceSans =>
    ⟨⟨"'Oswald', sans-serif", fontUrl "Oswald" "400;500;600;700"⟩,
      ⟨"'Source Sans 3', sans-serif", fontUrl "Source+Sans+3" "400;600"⟩⟩
  | .dmSerifDmSans =>
    ⟨⟨"'DM Serif Display', serif",
        "https://fonts.googleapis.com/css2?family=DM+Serif+Display&display=swap"⟩,
      ⟨"'DM Sans', sans-serif", fontUrl "DM+Sans" "400;500;700"⟩⟩
  | .spaceGroteskWorkSans =>
    ⟨⟨"'Space Grotesk', sans-serif", fontUrl "Space+Grotesk" "400;500;600;700"⟩,
      ⟨"'Work Sans', sans-serif", fontUrl "Work+Sans" "400;500;600"⟩⟩
  | .libreBaskervilleSourceSans =>
    ⟨⟨"'Libre Baskerville', serif", fontUrl "Libre+Baskerville" "400;700"⟩,
      ⟨"'Source Sans 3', sans-serif", fontUrl "Source+Sans+3" "400;600"⟩⟩

/-- The addresses the faces are loaded from, each once. -/
def FontPair.urls (p : FontPair) : List String :=
  let heading := if p.heading.url.isEmpty then [] else [p.heading.url]
  if p.body.url.isEmpty || heading.contains p.body.url then heading else heading ++ [p.body.url]

/-- Sizes in points, and the line height in tenths. -/
structure TypeSizes where
  name : Nat
  heading : Nat
  body : Nat
  small : Nat
  lineHeightTenths : Nat
  deriving DecidableEq, Repr

def TypeScale.sizes : TypeScale → TypeSizes
  | .small => ⟨24, 11, 9, 8, 14⟩
  | .medium => ⟨28, 13, 10, 9, 15⟩
  | .large => ⟨32, 14, 11, 10, 16⟩

structure Distances where
  sectionGap : String
  item : String
  element : String
  pageMargin : String
  deriving DecidableEq, Repr

def SpacingScale.distances : SpacingScale → Distances
  | .compact => ⟨"16px", "10px", "4px", "15mm"⟩
  | .comfortable => ⟨"20px", "12px", "6px", "20mm"⟩
  | .spacious => ⟨"28px", "16px", "8px", "25mm"⟩

structure ThemeDefaults where
  fontPairing : FontPairing
  headerVariant : HeaderVariant
  sectionStyle : SectionStyle
  skillsDisplay : SkillsDisplay
  roundedCorners : Bool
  palette : Palette Color
  deriving DecidableEq, Repr

def Theme.palette : Theme → Palette Color
  | .professional =>
    ⟨.rgb 0x1a 0x36 0x5d, .rgb 0xf7 0xfa 0xfc, .rgb 0x2b 0x6c 0xb0, .rgb 0x2d 0x37 0x48,
      .rgb 0x71 0x80 0x96⟩
  | .modern =>
    ⟨.rgb 0x11 0x18 0x27, .rgb 0xf3 0xf4 0xf6, .rgb 0x63 0x66 0xf1, .rgb 0x37 0x41 0x51,
      .rgb 0x6b 0x72 0x80⟩
  | .creative =>
    ⟨.rgb 0x7c 0x3a 0xed, .rgb 0xfa 0xf5 0xff, .rgb 0xec 0x48 0x99, .rgb 0x1f 0x29 0x37,
      .rgb 0x6b 0x72 0x80⟩
  | .minimal => ⟨.black, .white, .black, .rgb 0x33 0x33 0x33, .rgb 0x88 0x88 0x88⟩
  | .bold =>
    ⟨.rgb 0xdc 0x26 0x26, .rgb 0xfe 0xf2 0xf2, .rgb 0xf9 0x73 0x16, .rgb 0x1f 0x29 0x37,
      .rgb 0x6b 0x72 0x80⟩

def Theme.defaults (t : Theme) : ThemeDefaults :=
  match t with
  | .professional => ⟨.interInter, .simple, .underlined, .tags, true, t.palette⟩
  | .modern => ⟨.montserratOpenSans, .accented, .clean, .tags, true, t.palette⟩
  | .creative => ⟨.poppinsNunito, .banner, .boxed, .tags, true, t.palette⟩
  | .minimal => ⟨.latoLato, .simple, .clean, .compact, false, t.palette⟩
  | .bold => ⟨.ralewayLato, .banner, .timeline, .list, true, t.palette⟩

/-- The gradient of a banner header that names none; other headers have no background to shade. -/
def Theme.bannerGradient : Theme → HeaderGradient
  | .creative => .subtle
  | .bold => .radial
  | _ => .none

/-- The theme's word with a capital. -/
def Theme.title : Theme → String
  | .professional => "Professional"
  | .modern => "Modern"
  | .creative => "Creative"
  | .minimal => "Minimal"
  | .bold => "Bold"

end Vitae
