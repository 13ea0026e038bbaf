import Vitae.Vocabulary
import Vitae.Text.Blank

/-!
What a curriculum vitae says, apart from how it looks. Reading takes any value as a text, trims it
and drops it if nothing is left.
-/

namespace Vitae

inductive ContactField where
  | email
  | phone
  | location
  | linkedin
  | website
  deriving DecidableEq, Repr

def ContactField.word : ContactField → String
  | .email => "email"
  | .phone => "phone"
  | .location => "location"
  | .linkedin => "linkedin"
  | .website => "website"

def ContactField.all : List ContactField := [.email, .phone, .location, .linkedin, .website]

instance : Vocabulary ContactField := ⟨ContactField.all, ContactField.word⟩

structure Contact where
  email : Option String := none
  phone : Option String := none
  location : Option String := none
  linkedin : Option String := none
  website : Option String := none
  deriving DecidableEq, Repr

def Contact.field (c : Contact) : ContactField → Option String
  | .email => c.email
  | .phone => c.phone
  | .location => c.location
  | .linkedin => c.linkedin
  | .website => c.website

/-- The fields that are set, in the order they are shown. -/
def Contact.items (c : Contact) : List (ContactField × String) :=
  ContactField.all.filterMap fun field =>
    (Text.unlessEmpty (c.field field)).map fun value => (field, value)

structure Experience where
  title : String := ""
  company : String := ""
  period : String := ""
  highlights : List String := []
  location : Option String := none
  deriving DecidableEq, Repr

structure Education where
  degree : String := ""
  institution : String := ""
  year : String := ""
  details : Option String := none
  deriving DecidableEq, Repr

structure Skills where
  technical : List String := []
  soft : List String := []
  deriving DecidableEq, Repr

def Skills.isEmpty (s : Skills) : Bool := s.technical.isEmpty && s.soft.isEmpty

structure SpokenLanguage where
  name : String := ""
  level : String := ""
  deriving DecidableEq, Repr

structure Content where
  fullName : String := ""
  headline : Option String := none
  summary : Option String := none
  experience : List Experience := []
  education : List Education := []
  skills : Skills := {}
  languages : List SpokenLanguage := []
  certifications : List String := []
  contact : Option Contact := none
  avatarUrl : Option String := none
  deriving DecidableEq, Repr

namespace Content

abbrev Members := List (String × Json)

/-- The trimmed text of a value, if there is any. -/
def textOf : Json → Option String
  | .null => none
  | value =>
    let text := Text.trim value.plainText
    if text.isEmpty then none else some text

def textIn (members : Members) (key : String) : Option String :=
  textOf (Json.getOrNull key members)

def textOrEmptyIn (members : Members) (key : String) : String := (textIn members key).getD ""

/-- The first of two members unless it counts as false. -/
def eitherIn (members : Members) (first second : String) : Json :=
  let value := Json.getOrNull first members
  if value.truthy then value else Json.getOrNull second members

/-- Whatever counts as false has no items. -/
def itemsIn (members : Members) (key : String) : Checked (List Json) :=
  let value := Json.getOrNull key members
  if value.truthy then value.itemsOf else .ok []

/-- Several texts; a single one stands for itself. -/
def textsIn (members : Members) (key : String) : Checked (List String) :=
  match Json.getOrNull key members with
  | .string s => .ok ([Json.string s].filterMap textOf)
  | _ => (itemsIn members key).map (·.filterMap textOf)

def readExperience (value : Json) : Checked Experience := do
  let members ← value.membersOf
  return {
    title := textOrEmptyIn members "title"
    company := textOrEmptyIn members "company"
    period := textOrEmptyIn members "period"
    highlights := ← textsIn members "highlights"
    location := textIn members "location" }

def readEducation (value : Json) : Checked Education := do
  let members ← value.membersOf
  return {
    degree := textOrEmptyIn members "degree"
    institution := textOrEmptyIn members "institution"
    year := textOrEmptyIn members "year"
    details := textIn members "details" }

def readLanguage (value : Json) : Checked SpokenLanguage := do
  let members ← value.membersOf
  return {
    name := (textOf (eitherIn members "name" "language")).getD ""
    level := textOrEmptyIn members "level" }

def readSkills (value : Json) : Checked Skills := do
  if !value.truthy then return {}
  let members ← value.membersOf
  return { technical := ← textsIn members "technical", soft := ← textsIn members "soft" }

def readContact (value : Json) : Checked (Option Contact) := do
  if !value.truthy then return none
  let members ← value.membersOf
  return some {
    email := textIn members "email"
    phone := textIn members "phone"
    location := textIn members "location"
    linkedin := textIn members "linkedin"
    website := textIn members "website" }

def ofJson (value : Json) : Checked Content := do
  let members ← value.membersOf
  let experience ← (← itemsIn members "experience").mapM readExperience
  let education ← (← itemsIn members "education").mapM readEducation
  let skills ← readSkills (Json.getOrNull "skills" members)
  let languages ← (← itemsIn members "languages").mapM readLanguage
  let certifications ← textsIn members "certifications"
  let contact ← readContact (eitherIn members "contactInfo" "contact")
  return {
    fullName := (textOf (eitherIn members "fullName" "full_name")).getD ""
    headline := textIn members "headline"
    summary := textIn members "summary"
    experience := experience
    education := education
    skills := skills
    languages := languages
    certifications := certifications
    contact := contact
    avatarUrl := textOf (eitherIn members "avatarUrl" "avatar_url") }

end Content

end Vitae
