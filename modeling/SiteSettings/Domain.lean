import SiteSettings.Domain.Label

/-! Domains in ASCII. A domain may be written in any characters and in either case; two
spellings that stand for the same domain have the same text in ASCII. -/

namespace SiteSettings.Domain

/-- The ASCII form of a domain, if every label of it is sound. -/
def toAscii? (cs : List Char) : Option (List Char) := do
  let mapped ← cs.mapM mapChar?
  let labels ← (Text.splitOn '.' (Text.compose mapped.flatten)).mapM readLabel?
  guard (!labels.any holdsRight || labels.all runsOneWay)
  return Text.join '.' (labels.map printLabel)

end SiteSettings.Domain
