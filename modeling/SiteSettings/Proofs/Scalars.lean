import SiteSettings.Proofs.NavShape
import SiteSettings.Rule.Scalar

/-! When each rule that looks at one value accepts it, and what it makes of it. -/

namespace SiteSettings.Rule

variable {setting coerced : Setting}

theorem expectText_eq_ok {text : String} :
    expectText setting = .ok text ↔ setting = .data (.text text) := by
  unfold expectText
  cases setting with
  | theme theme => simp [Setting.text?, Setting.value?]
  | data value => cases value <;> simp [Setting.text?, Setting.value?, Value.text?]

private theorem bind_eq_ok {α β ε : Type} {first : Except ε α} {next : α → Except ε β} {value : β} :
    (first >>= next) = .ok value ↔ ∃ middle, first = .ok middle ∧ next middle = .ok value := by
  cases first <;> simp [bind, Except.bind]

/-- A value of the kind, of the given length if the kind has lengths. -/
structure Fits (kind : Kind) (length : Option Nat) (value : Value) : Prop where
  kind : kind.matches value = true
  length : ∀ expected actual, length = some expected → lengthOf? value = some actual →
    actual = expected

theorem coerceType_eq_ok {kind : Kind} {length : Option Nat} :
    coerceType kind length setting = .ok coerced ↔
      coerced = setting ∧ ∃ value, setting = .data value ∧ Fits kind length value := by
  unfold coerceType
  cases setting with
  | theme theme => simp [Setting.value?]
  | data value =>
    by_cases right : kind.matches value = true
    · simp only [Setting.value?, Option.filter_some, right, if_true, Setting.data.injEq,
        exists_eq_left']
      split
      next expected actual measured =>
        split
        next same =>
          constructor
          · intro done
            refine ⟨(Except.ok.inj done).symm, right, fun other found fixed held => ?_⟩
            cases fixed
            rw [measured] at held
            exact (Option.some.inj held).symm.trans same
          · rintro ⟨rfl, _⟩
            rfl
        next other =>
          simp only [reduceCtorEq, false_iff, not_and]
          exact fun _ fits => other (fits.length expected actual rfl measured)
      next unmeasured =>
        constructor
        · intro done
          exact ⟨(Except.ok.inj done).symm, right, fun expected actual fixed measured =>
            absurd measured (unmeasured expected actual fixed)⟩
        · rintro ⟨rfl, _⟩
          rfl
    · simp only [Setting.value?, Option.filter_some, right, Bool.false_eq_true, if_false,
        reduceCtorEq, Setting.data.injEq, exists_eq_left', false_iff, not_and]
      intro _ fits
      exact right fits.kind

theorem coerceChoice_eq_ok {choices : List String} :
    coerceChoice choices setting = .ok coerced ↔
      coerced = setting ∧ ∃ text ∈ choices, setting = .data (.text text) := by
  simp only [coerceChoice, bind_eq_ok, expectText_eq_ok]
  constructor
  · intro done
    rcases done with ⟨text, rfl, done⟩
    split at done
    next member => exact ⟨(Except.ok.inj done).symm, text, member, rfl⟩
    next => cases done
  · intro done
    rcases done with ⟨rfl, text, member, rfl⟩
    exact ⟨text, rfl, if_pos member⟩

private theorem unless_eq_ok {mustExist found : Bool} {problem : Problem} {result : Setting} :
    (if (mustExist && !found) = true then (do let _ ← (throw problem : Except Problem PUnit); pure result)
      else pure result : Except Problem Setting) = .ok coerced ↔
      coerced = result ∧ (mustExist = true → found = true) := by
  cases mustExist <;> cases found <;>
    simp [pure, Except.pure, throw, throwThe, MonadExceptOf.throw, bind, Except.bind,
      eq_comm (a := result)]

theorem coerceDirectory_eq_ok {environment : Environment} {base : Path} {mustExist : Bool} :
    coerceDirectory environment base mustExist setting = .ok coerced ↔
      ∃ text, setting = .data (.text text) ∧
        coerced = .data (.text (environment.locate base text).text) ∧
        (mustExist = true → environment.files.isDirectory (environment.locate base text) = true) := by
  simp only [coerceDirectory, bind_eq_ok, expectText_eq_ok]
  exact exists_congr fun text => and_congr_right fun _ => unless_eq_ok

theorem coerceFile_eq_ok {environment : Environment} {base : Path} {mustExist : Bool} :
    coerceFile environment base mustExist setting = .ok coerced ↔
      ∃ text, setting = .data (.text text) ∧
        coerced = .data (.text (environment.locate base text).text) ∧
        (mustExist = true → environment.files.isFile (environment.locate base text) = true) := by
  simp only [coerceFile, bind_eq_ok, expectText_eq_ok]
  exact exists_congr fun text => and_congr_right fun _ => unless_eq_ok

/-- The text a URL gets: that of a directory ends its path in a slash. -/
def urlText (directory : Bool) (url : Url) : String :=
  (if directory then url.asDirectory else url).print

theorem coerceUrl_eq_ok {directory : Bool} :
    coerceUrl directory setting = .ok coerced ↔
      (setting = .data (.text "") ∧ coerced = setting) ∨
        ∃ text url, setting = .data (.text text) ∧ text ≠ "" ∧ Url.parse text = .ok url ∧
          url.host?.isSome = true ∧ coerced = .data (.text (urlText directory url)) := by
  simp only [coerceUrl, bind_eq_ok, expectText_eq_ok]
  constructor
  · intro done
    rcases done with ⟨text, rfl, done⟩
    split at done
    next empty =>
      rw [String.isEmpty_iff] at empty
      subst empty
      exact .inl ⟨rfl, (Except.ok.inj done).symm⟩
    next nonempty =>
      rw [String.isEmpty_iff] at nonempty
      cases parsed : Url.parse text with
      | error error => simp [parsed, throw, throwThe, MonadExceptOf.throw] at done
      | ok url =>
        cases host : url.host? with
        | none => simp [parsed, host, throw, throwThe, MonadExceptOf.throw, bind, Except.bind] at done
        | some found =>
          simp only [parsed, host, Option.isNone_some, Bool.false_eq_true, if_false, pure,
            Except.pure, Except.ok.injEq] at done
          exact .inr ⟨text, url, rfl, nonempty, parsed, by simp [host], done.symm⟩
  · intro done
    rcases done with ⟨rfl, rfl⟩ | ⟨text, url, rfl, nonempty, parsed, host, rfl⟩
    · exact ⟨"", rfl, rfl⟩
    · refine ⟨text, rfl, ?_⟩
      rw [if_neg (by rwa [String.isEmpty_iff])]
      obtain ⟨found, host⟩ := Option.isSome_iff_exists.mp host
      simp [parsed, host, pure, Except.pure, urlText]

theorem parseAddress_eq_ok {address : SocketAddress} :
    parseAddress setting = .ok address ↔
      ∃ text, setting = .data (.text text) ∧ SocketAddress.ofText? text = some address := by
  simp only [parseAddress, bind_eq_ok, expectText_eq_ok]
  refine exists_congr fun text => and_congr_right fun _ => ?_
  cases SocketAddress.ofText? text <;>
    simp [pure, Except.pure, throw, throwThe, MonadExceptOf.throw]

theorem coerceNav_eq_ok :
    coerceNav setting = .ok coerced ↔
      coerced = setting ∧ ∃ value, setting = .data value ∧ Nav.Tree value := by
  cases setting with
  | theme theme => simp [coerceNav]
  | data value =>
    simp only [coerceNav, Setting.data.injEq, exists_eq_left', ← Nav.check_ok_iff]
    cases Nav.check value <;> simp [eq_comm]

end SiteSettings.Rule
