import Vitae.Vocabulary

/-!
What an addressed element of a document is.
-/

namespace Vitae

inductive ElementType where
  | header
  | headerField
  | photo
  | sectionBlock
  | sectionTitle
  | summary
  | experienceItem
  | educationItem
  | field
  | highlight
  | skillGroup
  | skillTag
  | languageItem
  | certificationItem
  deriving DecidableEq, Repr

def ElementType.word : ElementType → String
  | .header => "header"
  | .headerField => "header-field"
  | .photo => "photo"
  | .sectionBlock => "section"
  | .sectionTitle => "section-title"
  | .summary => "summary"
  | .experienceItem => "experience-item"
  | .educationItem => "education-item"
  | .field => "field"
  | .highlight => "highlight"
  | .skillGroup => "skill-group"
  | .skillTag => "skill-tag"
  | .languageItem => "language-item"
  | .certificationItem => "certification-item"

def ElementType.all : List ElementType :=
  [.header, .headerField, .photo, .sectionBlock, .sectionTitle, .summary, .experienceItem,
    .educationItem, .field, .highlight, .skillGroup, .skillTag, .languageItem, .certificationItem]

instance : Vocabulary ElementType := ⟨ElementType.all, ElementType.word⟩

end Vitae
