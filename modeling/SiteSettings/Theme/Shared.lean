import SiteSettings.Theme.Registry

/-! A registry shared by a whole process. -/

namespace SiteSettings

/-- A place for one registry. Once it is taken it stays as it is. -/
structure SharedRegistry where
  installed : Option Registry

namespace SharedRegistry

def vacant : SharedRegistry := ⟨none⟩

/-- The first registry wins. Also tells whether this one was taken. -/
def install (shared : SharedRegistry) (registry : Registry) : SharedRegistry × Bool :=
  match shared.installed with
  | none => (⟨some registry⟩, true)
  | some _ => (shared, false)

end SharedRegistry

end SiteSettings
