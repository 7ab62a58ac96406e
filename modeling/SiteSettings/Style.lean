/-! Terminal styling by escape sequences. -/

namespace SiteSettings

inductive Style where
  | bold
  | dimmed
  | red
  | yellow
  | cyan
  | brightRed
  | brightGreen
  | brightYellow
  | brightBlue
deriving Repr, DecidableEq

namespace Style

/-- The parameters that switch a style on and off. Switching off bold or dimmed
resets everything, switching off a colour only the colour. -/
def parameters : Style → Nat × Nat
  | .bold => (1, 0)
  | .dimmed => (2, 0)
  | .red => (31, 39)
  | .yellow => (33, 39)
  | .cyan => (36, 39)
  | .brightRed => (91, 39)
  | .brightGreen => (92, 39)
  | .brightYellow => (93, 39)
  | .brightBlue => (94, 39)

def sequence (parameter : Nat) : String :=
  "\x1b[" ++ String.ofList (Nat.toDigits 10 parameter) ++ "m"

def apply (style : Style) (text : String) : String :=
  sequence style.parameters.1 ++ text ++ sequence style.parameters.2

end Style

end SiteSettings
