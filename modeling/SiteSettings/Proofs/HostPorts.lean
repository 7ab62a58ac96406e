import SiteSettings.Proofs.AddressGrammar

/-! Which texts are taken for an address to listen on. The strict notation is read exactly; the
free one lets brackets and a plus sign through that belong to no address. -/

namespace SiteSettings.SocketAddress

open Text

variable {cs rest host digits : List Char} {at_ : UInt16 → SocketAddress}
  {address : SocketAddress} {port : UInt16}

theorem readAfter?_eq_some_iff {mark : Char} {bound n : Nat} :
    readAfter? mark bound cs = some (n, rest) ↔
      ∃ digits, cs = mark :: (digits ++ rest) ∧ DecimalWord digits n ∧ n < bound ∧
        EndsNumber 10 rest := by
  cases cs with
  | nil => simp [readAfter?]
  | cons c cs =>
    simp only [readAfter?]
    constructor
    · intro read
      split at read
      next digit more tail span =>
        split at read
        next fits =>
          obtain ⟨rfl, small⟩ := fits
          obtain ⟨rfl, rfl⟩ := Prod.mk.inj (Option.some.inj read)
          obtain ⟨word, all, ends, rfl, same⟩ := exists_word_of_span span
          exact ⟨word, rfl, decimalWord_of_cons all same, small, ends⟩
        · cases read
      · cases read
    · intro written
      obtain ⟨digits, shape, decimal, small, ends⟩ := written
      obtain ⟨rfl, rfl⟩ := List.cons.inj shape
      obtain ⟨all, digit, more, split, value⟩ := decimal.exists_cons
      have span := spanDigits_word all ends
      rw [split] at span
      simp only [span, value, small, and_self, if_true]

theorem parsePort?_eq_some_iff :
    parsePort? cs = some port ↔ ∃ digits, cs = ':' :: digits ∧ DecimalWord digits port.toNat := by
  have whole : parsePort? cs = some port ↔
      readAfter? ':' UInt16.size cs = some (port.toNat, []) := by
    unfold parsePort?
    constructor
    · intro parsed
      split at parsed
      next n read =>
        cases parsed
        obtain ⟨-, -, -, small, -⟩ := readAfter?_eq_some_iff.mp read
        rw [read, UInt16.toNat_ofNat_of_lt' small]
      · cases parsed
    · intro read
      simp [read]
  rw [whole, readAfter?_eq_some_iff]
  constructor
  · intro written
    obtain ⟨digits, shape, decimal, -, -⟩ := written
    exact ⟨digits, by simpa using shape, decimal⟩
  · intro written
    obtain ⟨digits, rfl, decimal⟩ := written
    exact ⟨digits, by simp, decimal, port.toNat_lt, endsNumber_nil 10⟩

/-- The scope of an IPv6 address. Without one it is zero. -/
inductive Zone : List Char → UInt32 → Prop where
  | absent : Zone [] 0
  | number {digits : List Char} {scope : UInt32} (decimal : DecimalWord digits scope.toNat) :
      Zone ('%' :: digits) scope

theorem readZone_iff {n : Nat} :
    (readAfter? '%' UInt32.size cs).getD (0, cs) = (n, ']' :: rest) ↔
      ∃ zone scope, Zone zone scope ∧ scope.toNat = n ∧ cs = zone ++ ']' :: rest := by
  constructor
  · intro read
    cases marked : readAfter? '%' UInt32.size cs with
    | none =>
      rw [marked] at read
      cases read
      exact ⟨[], 0, .absent, rfl, rfl⟩
    | some found =>
      rw [marked] at read
      cases read
      obtain ⟨digits, rfl, decimal, small, -⟩ := readAfter?_eq_some_iff.mp marked
      have scope : (UInt32.ofNat n).toNat = n := UInt32.toNat_ofNat_of_lt' small
      exact ⟨'%' :: digits, UInt32.ofNat n, .number (scope.symm ▸ decimal), scope, rfl⟩
  · intro written
    obtain ⟨_, scope, zoned, rfl, rfl⟩ := written
    cases zoned with
    | absent =>
      have unmarked : readAfter? '%' UInt32.size (']' :: rest) = none := by
        rw [Option.eq_none_iff_forall_not_mem]
        intro found read
        obtain ⟨_, shape, -⟩ := readAfter?_eq_some_iff.mp read
        cases shape
      simp [unmarked]
    | @number digits _ decimal =>
      have marked : readAfter? '%' UInt32.size ('%' :: digits ++ ']' :: rest) =
          some (scope.toNat, ']' :: rest) :=
        readAfter?_eq_some_iff.mpr ⟨digits, rfl, decimal, scope.toNat_lt, endsNumber_cons rfl rest⟩
      rw [marked]
      rfl

theorem Zone.endsRow {zone : List Char} {scope : UInt32} (zoned : Zone zone scope)
    (rest : List Char) : Ipv6.EndsRow (zone ++ ']' :: rest) := by
  cases zoned with
  | absent => exact .of_ne rfl (by decide) (by decide) rest
  | number => exact .of_ne rfl (by decide) (by decide) _

/-- A host, and the address that it makes with a port. An IPv6 address stands in brackets. -/
inductive StrictHost : List Char → (UInt16 → SocketAddress) → Prop where
  | v4 (ip : Ipv4) : StrictHost ip.print (.v4 ip)
  | v6 (spelling : Ipv6.Spelling) {zone : List Char} {scope : UInt32} (zoned : Zone zone scope) :
      StrictHost ('[' :: (spelling.text ++ (zone ++ [']']))) (.v6 spelling.address scope)

inductive BareHost : List Char → (UInt16 → SocketAddress) → Prop where
  | v4 (ip : Ipv4) : BareHost ip.print (.v4 ip)
  | localhost {name : List Char} (same : name.map Char.toLower = "localhost".toList) :
      BareHost name (.v4 Ipv4.localhost)
  | v6 (spelling : Ipv6.Spelling) : BareHost spelling.text (.v6 spelling.address 0)

inductive FreeHost : List Char → (UInt16 → SocketAddress) → Prop where
  | bracketed (opened closed : Nat) {host : List Char} {at_ : UInt16 → SocketAddress}
      (bare : BareHost host at_) :
      FreeHost (List.replicate opened '[' ++ (host ++ List.replicate closed ']')) at_

def HostPort (Host : List Char → (UInt16 → SocketAddress) → Prop) (sign cs : List Char)
    (address : SocketAddress) : Prop :=
  ∃ host at_ digits port, Host host at_ ∧ cs = host ++ ':' :: (sign ++ digits) ∧
    DecimalWord digits port.toNat ∧ address = at_ port

/-- The strict notation describes what its reader takes. -/
theorem parse?_eq_some_iff : parse? cs = some address ↔ HostPort StrictHost [] cs address := by
  constructor
  · intro parsed
    unfold parse? at parsed
    split at parsed
    next ip rest read =>
      obtain ⟨port, numbered, rfl⟩ := Option.map_eq_some_iff.mp parsed
      obtain ⟨rfl, -⟩ := Ipv4.read?_eq_some_iff.mp read
      obtain ⟨digits, rfl, decimal⟩ := parsePort?_eq_some_iff.mp numbered
      exact ⟨_, _, digits, port, .v4 ip, rfl, decimal, rfl⟩
    next =>
      split at parsed
      next rest =>
        obtain ⟨⟨ip, tail⟩, read, behind⟩ := Option.bind_eq_some_iff.mp parsed
        obtain ⟨spelling, rfl, rfl⟩ := Ipv6.exists_spelling read
        rcases zone : (readAfter? '%' UInt32.size tail).getD (0, tail) with ⟨n, closed⟩
        simp only [zone] at behind
        split at behind
        next rest =>
          obtain ⟨zone, scope, zoned, rfl, rfl⟩ := readZone_iff.mp zone
          obtain ⟨port, numbered, rfl⟩ := Option.map_eq_some_iff.mp behind
          obtain ⟨digits, rfl, decimal⟩ := parsePort?_eq_some_iff.mp numbered
          exact ⟨_, _, digits, port, .v6 spelling zoned, by simp, decimal, by simp⟩
        · cases behind
      · cases parsed
  · intro written
    obtain ⟨host, at_, digits, port, strict, rfl, decimal, rfl⟩ := written
    have numbered := parsePort?_eq_some_iff.mpr ⟨digits, rfl, decimal⟩
    cases strict with
    | v4 ip =>
      have address : Ipv4.read? (ip.print ++ ':' :: digits) = some (ip, ':' :: digits) :=
        Ipv4.read?_eq_some_iff.mpr ⟨rfl, endsNumber_cons rfl digits⟩
      simp [parse?, address, numbered]
    | @v6 spelling zone scope zoned =>
      have bracket : Ipv4.read? ('[' :: (spelling.text ++ (zone ++ ']' :: ':' :: digits))) = none :=
        Ipv4.read?_eq_none (by simp [spanDigits, digitValue?])
      have address := Ipv6.read?_spelling spelling (zoned.endsRow (':' :: digits))
      have zone_read := readZone_iff.mpr
        ⟨zone, scope, zoned, rfl, (rfl : _ = zone ++ ']' :: ':' :: digits)⟩
      simp only [parse?, List.cons_append, List.append_assoc, List.nil_append, bracket, address,
        Option.bind_eq_bind, Option.bind_some, zone_read, numbered]
      simp

theorem splitLast?_eq_none_iff {separator : Char} :
    splitLast? separator cs = none ↔ separator ∉ cs := by
  induction cs with
  | nil => simp [splitLast?]
  | cons c cs ih =>
    simp only [splitLast?, List.mem_cons, not_or, ← ih]
    split
    next found => simp [found]
    next missing => simp [missing, eq_comm]

theorem splitLast?_eq_some_iff {separator : Char} {before after : List Char} :
    splitLast? separator cs = some (before, after) ↔
      cs = before ++ separator :: after ∧ separator ∉ after := by
  constructor
  · intro split
    induction cs generalizing before with
    | nil => cases split
    | cons c cs ih =>
      simp only [splitLast?] at split
      split at split
      next found =>
        cases split
        obtain ⟨rfl, last⟩ := ih found
        exact ⟨rfl, last⟩
      next missing =>
        split at split
        next same =>
          cases split
          exact ⟨by rw [same]; rfl, splitLast?_eq_none_iff.mp missing⟩
        · cases split
  · intro written
    obtain ⟨rfl, last⟩ := written
    induction before with
    | nil => simp [splitLast?, splitLast?_eq_none_iff.mpr last]
    | cons c before ih => simp [splitLast?, ih]

def portOf? (n : Nat) : Option UInt16 := if n < UInt16.size then some (UInt16.ofNat n) else none

theorem portOf?_eq_some_iff :
    (parseDigits? 10 cs).bind portOf? = some port ↔ DecimalWord cs port.toNat := by
  simp only [Option.bind_eq_some_iff, parseDigits?_eq_some_iff, portOf?,
    Option.ite_none_right_eq_some, Option.some.injEq]
  constructor
  · intro found
    obtain ⟨n, decimal, small, rfl⟩ := found
    rwa [UInt16.toNat_ofNat_of_lt' small]
  · intro decimal
    exact ⟨port.toNat, decimal, port.toNat_lt, UInt16.ofNat_toNat⟩

theorem parseBarePort?_signed (cs : List Char) :
    parseBarePort? ('+' :: cs) = (parseDigits? 10 cs).bind portOf? := by
  simp only [parseBarePort?]
  cases parseDigits? 10 cs <;> rfl

theorem parseBarePort?_unsigned (unsigned : ∀ rest, cs ≠ '+' :: rest) :
    parseBarePort? cs = (parseDigits? 10 cs).bind portOf? := by
  simp only [parseBarePort?]
  cases parseDigits? 10 cs <;> rfl

theorem parseBarePort?_eq_some_iff :
    parseBarePort? cs = some port ↔ ∃ sign digits, (sign = [] ∨ sign = ['+']) ∧
      cs = sign ++ digits ∧ DecimalWord digits port.toNat := by
  by_cases signed : ∃ rest, cs = '+' :: rest
  · obtain ⟨rest, rfl⟩ := signed
    rw [parseBarePort?_signed, portOf?_eq_some_iff]
    constructor
    · intro decimal
      exact ⟨['+'], rest, .inr rfl, rfl, decimal⟩
    · intro written
      obtain ⟨_, digits, rfl | rfl, shape, decimal⟩ := written
      · cases shape
        exact absurd (decimal.digits '+' List.mem_cons_self) (by decide)
      · cases shape
        exact decimal
  · rw [parseBarePort?_unsigned (not_exists.mp signed), portOf?_eq_some_iff]
    constructor
    · intro decimal
      exact ⟨[], cs, .inl rfl, rfl, decimal⟩
    · intro written
      obtain ⟨_, digits, rfl | rfl, shape, decimal⟩ := written
      · cases shape
        exact decimal
      · exact absurd ⟨digits, shape⟩ signed

/-- Characters that stand beside bare hosts and never within them. -/
def marks : List Char := ['[', ']', '+', '%']

theorem not_addressChar_of_mark {mark : Char} (listed : mark ∈ marks) : ¬ AddressChar mark := by
  simp only [marks, List.mem_cons, List.not_mem_nil, or_false] at listed
  rcases listed with rfl | rfl | rfl | rfl <;> simp [AddressChar, digitValue?]

theorem BareHost.unmarked (bare : BareHost host at_) {mark : Char} (listed : mark ∈ marks) :
    mark ∉ host := by
  intro inside
  cases bare with
  | v4 ip => exact not_addressChar_of_mark listed (Ipv4.addressChar_of_mem_print inside)
  | v6 spelling =>
    exact not_addressChar_of_mark listed (Ipv6.Spelling.addressChar_of_mem_text inside)
  | localhost same =>
    have letter : mark.toLower ∈ "localhost".toList := same ▸ List.mem_map_of_mem inside
    have table : ∀ mark ∈ marks, mark.toLower ∉ "localhost".toList := by simp [marks, Char.toLower]
    exact table mark listed letter

def stripped (host : List Char) : List Char :=
  ((host.dropWhile (· = '[')).reverse.dropWhile (· = ']')).reverse

theorem dropWhile_replicate_append {mark : Char} (n : Nat) (other : mark ∉ cs) :
    (List.replicate n mark ++ cs).dropWhile (· = mark) = cs := by
  rw [List.dropWhile_append_of_pos (by simp), List.dropWhile_eq_self_iff]
  intro nonempty dropped
  have inside := List.getElem_mem nonempty
  rw [of_decide_eq_true dropped] at inside
  exact other inside

theorem exists_replicate_dropWhile (mark : Char) (cs : List Char) :
    ∃ n, cs = List.replicate n mark ++ cs.dropWhile (· = mark) := by
  refine ⟨(cs.takeWhile (· = mark)).length, ?_⟩
  have run : cs.takeWhile (· = mark) = List.replicate (cs.takeWhile (· = mark)).length mark := by
    rw [List.eq_replicate_iff]
    refine ⟨rfl, fun c inside => ?_⟩
    simpa using List.mem_takeWhile_imp inside
  rw [← run, List.takeWhile_append_dropWhile]

theorem stripped_bracketed (bare : BareHost host at_) (opened closed : Nat) :
    stripped (List.replicate opened '[' ++ (host ++ List.replicate closed ']')) = host := by
  have no_open : '[' ∉ host ++ List.replicate closed ']' := by
    simpa using bare.unmarked (by decide)
  have no_close : ']' ∉ host.reverse := by simpa using bare.unmarked (by decide)
  rw [stripped, dropWhile_replicate_append opened no_open, List.reverse_append,
    List.reverse_replicate, dropWhile_replicate_append closed no_close, List.reverse_reverse]

theorem exists_bracketed (host : List Char) :
    ∃ opened closed, host =
      List.replicate opened '[' ++ (stripped host ++ List.replicate closed ']') := by
  obtain ⟨opened, front⟩ := exists_replicate_dropWhile '[' host
  obtain ⟨closed, back⟩ := exists_replicate_dropWhile ']' (host.dropWhile (· = '[')).reverse
  refine ⟨opened, closed, ?_⟩
  have rest := congrArg List.reverse back
  rw [List.reverse_reverse, List.reverse_append, List.reverse_replicate] at rest
  rw [stripped, ← rest]
  exact front

def ofHost? (host : List Char) : Option (UInt16 → SocketAddress) :=
  if host.map Char.toLower = "localhost".toList then some (.v4 Ipv4.localhost)
  else
    match Ipv4.parse? host with
    | some ip => some (.v4 ip)
    | none => (Ipv6.parse? host).map fun ip => .v6 ip 0

theorem eq_of_toLower {c : Char} (lower : c.toLower = 'l') : c = 'l' ∨ c = 'L' := by
  unfold Char.toLower at lower
  split at lower
  · have value := congrArg Char.val lower
    refine .inr (Char.ext ?_)
    simp only [Char.reduceVal] at value ⊢
    grind
  · exact .inl lower

/-- The machine's name is no address: no address has its first letter. -/
theorem not_localhost (plain : ∀ c ∈ host, AddressChar c) :
    host.map Char.toLower ≠ "localhost".toList := by
  intro same
  have letter : 'l' ∈ host.map Char.toLower := by rw [same]; simp
  obtain ⟨c, inside, lower⟩ := List.mem_map.mp letter
  have address := plain c inside
  rcases eq_of_toLower lower with rfl | rfl <;> simp [AddressChar, digitValue?] at address

theorem ofHost?_eq_some_iff : ofHost? host = some at_ ↔ BareHost host at_ := by
  constructor
  · intro found
    unfold ofHost? at found
    split at found
    next same =>
      cases found
      exact .localhost same
    next =>
      split at found
      next ip parsed =>
        cases found
        rw [Ipv4.parse?_eq_some_iff.mp parsed]
        exact .v4 ip
      next =>
        obtain ⟨ip, parsed, rfl⟩ := Option.map_eq_some_iff.mp found
        obtain ⟨spelling, rfl, rfl⟩ := Ipv6.parse?_eq_some_iff.mp parsed
        exact .v6 spelling
  · intro bare
    cases bare with
    | localhost same => exact if_pos same
    | v4 ip =>
      have named : ip.print.map Char.toLower ≠ "localhost".toList :=
        not_localhost fun _ => Ipv4.addressChar_of_mem_print
      rw [ofHost?, if_neg named, Ipv4.parse?_eq_some_iff.mpr rfl]
    | v6 spelling =>
      have named : spelling.text.map Char.toLower ≠ "localhost".toList :=
        not_localhost fun _ => Ipv6.Spelling.addressChar_of_mem_text
      have no_v4 : Ipv4.parse? spelling.text = none := by
        rw [Option.eq_none_iff_forall_not_mem]
        intro ip parsed
        exact Ipv6.text_ne_print spelling ip (Ipv4.parse?_eq_some_iff.mp parsed)
      rw [ofHost?, if_neg named, no_v4, Ipv6.parse?_eq_some_iff.mpr ⟨spelling, rfl, rfl⟩]
      rfl

theorem parseHostPort?_eq (cs : List Char) :
    parseHostPort? cs = (splitLast? ':' cs).bind fun (host, port) =>
      (parseBarePort? port).bind fun port => (ofHost? (stripped host)).map (· port) := by
  unfold parseHostPort? ofHost?
  refine congrArg (splitLast? ':' cs).bind (funext fun (host, port) => ?_)
  refine congrArg (parseBarePort? port).bind (funext fun port => ?_)
  -- The test for the machine's name has a name of its own that is not seen here.
  change (if decide _ = true then _ else _) = _
  rw [← stripped]
  by_cases named : (stripped host).map Char.toLower = "localhost".toList
  · simp [named]
  · simp only [named, decide_false, Bool.false_eq_true, if_false]
    cases Ipv4.parse? (stripped host) with
    | some ip => rfl
    | none => cases Ipv6.parse? (stripped host) <;> rfl

def FreeForm (cs : List Char) (address : SocketAddress) : Prop :=
  ∃ sign, (sign = [] ∨ sign = ['+']) ∧ HostPort FreeHost sign cs address

theorem colon_not_mem_port {sign : List Char} (signed : sign = [] ∨ sign = ['+'])
    (decimal : DecimalWord digits port.toNat) : ':' ∉ sign ++ digits := by
  intro inside
  rcases List.mem_append.mp inside with front | digit
  · rcases signed with rfl | rfl <;> simp at front
  · exact absurd (decimal.digits ':' digit) (by decide)

/-- The free notation describes what its reader takes. -/
theorem parseHostPort?_eq_some_iff : parseHostPort? cs = some address ↔ FreeForm cs address := by
  rw [parseHostPort?_eq]
  constructor
  · intro parsed
    obtain ⟨⟨outer, behind⟩, split, parsed⟩ := Option.bind_eq_some_iff.mp parsed
    obtain ⟨port, numbered, parsed⟩ := Option.bind_eq_some_iff.mp parsed
    obtain ⟨at_, named, rfl⟩ := Option.map_eq_some_iff.mp parsed
    obtain ⟨rfl, -⟩ := splitLast?_eq_some_iff.mp split
    obtain ⟨sign, digits, signed, rfl, decimal⟩ := parseBarePort?_eq_some_iff.mp numbered
    obtain ⟨opened, closed, shape⟩ := exists_bracketed outer
    have free := FreeHost.bracketed opened closed (ofHost?_eq_some_iff.mp named)
    exact ⟨sign, signed, outer, at_, digits, port, shape ▸ free, rfl, decimal, rfl⟩
  · intro written
    obtain ⟨sign, signed, _, at_, digits, port, ⟨opened, closed, bare⟩, rfl, decimal, rfl⟩ :=
      written
    have numbered := parseBarePort?_eq_some_iff.mpr ⟨sign, digits, signed, rfl, decimal⟩
    rw [splitLast?_eq_some_iff.mpr ⟨rfl, colon_not_mem_port signed decimal⟩, Option.bind_some]
    simp only [numbered, Option.bind_some, stripped_bracketed bare, ofHost?_eq_some_iff.mpr bare]
    rfl

theorem unmarked_decimal {n : Nat} (decimal : DecimalWord digits n) {mark : Char}
    (listed : mark ∈ marks) : mark ∉ digits := by
  intro inside
  have digit := decimal.digits mark inside
  have table : ∀ mark ∈ marks, mark.isDigit = false := by simp [marks]
  rw [table mark listed] at digit
  cases digit

theorem Zone.unmarked {zone : List Char} {scope : UInt32} (zoned : Zone zone scope) {mark : Char}
    (listed : mark ∈ marks) (other : mark ≠ '%') : mark ∉ zone := by
  cases zoned with
  | absent => exact List.not_mem_nil
  | number decimal => simpa [other] using unmarked_decimal decimal listed

theorem FreeForm.no_percent (free : FreeForm cs address) : '%' ∉ cs := by
  obtain ⟨sign, signed, _, at_, digits, port, ⟨opened, closed, bare⟩, rfl, decimal, rfl⟩ := free
  have host : '%' ∉ _ := bare.unmarked (by simp [marks])
  have number : '%' ∉ digits := unmarked_decimal decimal (by simp [marks])
  rcases signed with rfl | rfl <;> simp [host, number]

/-- Where both notations apply they mean the same address. -/
theorem FreeForm.eq_of_strict {other : SocketAddress} (free : FreeForm cs other)
    (strict : HostPort StrictHost [] cs address) : other = address := by
  have same (also : FreeForm cs address) : other = address :=
    Option.some.inj ((parseHostPort?_eq_some_iff.mpr free).symm.trans
      (parseHostPort?_eq_some_iff.mpr also))
  obtain ⟨host, at_, digits, port, strict, rfl, decimal, rfl⟩ := strict
  cases strict with
  | v4 ip =>
    have host := FreeHost.bracketed 0 0 (.v4 ip)
    exact same ⟨[], .inl rfl, _, _, digits, port, host, by simp, decimal, rfl⟩
  | v6 spelling zoned =>
    cases zoned with
    | absent =>
      have host := FreeHost.bracketed 1 1 (.v6 spelling)
      exact same ⟨[], .inl rfl, _, _, digits, port, host, by simp, decimal, rfl⟩
    | number => exact absurd (by simp) free.no_percent

theorem ofText?_eq_some_iff {text : String} :
    ofText? text = some address ↔
      HostPort StrictHost [] text.toList address ∨ FreeForm text.toList address := by
  rw [← parse?_eq_some_iff, ← parseHostPort?_eq_some_iff]
  unfold ofText?
  simp only
  cases strict : parse? text.toList with
  | none => simp
  | some found =>
    simp only [Option.some_or, Option.some.injEq]
    constructor
    · exact .inl
    · intro either
      rcases either with same | free
      · exact same
      · exact (FreeForm.eq_of_strict (parseHostPort?_eq_some_iff.mp free)
          (parse?_eq_some_iff.mp strict)).symm

/-- Texts of the form `host:port`, where brackets stand in one pair around an IPv6 address. -/
def WellFormed (cs : List Char) (address : SocketAddress) : Prop :=
  HostPort (fun host at_ => StrictHost host at_ ∨ BareHost host at_) [] cs address

/-- Pairs of brackets that an address may have. -/
def pairs : SocketAddress → Nat
  | .v4 .. => 0
  | .v6 .. => 1

structure Orderly (cs : List Char) (address : SocketAddress) : Prop where
  unsigned : '+' ∉ cs
  matched : cs.count '[' = cs.count ']'
  allowed : cs.count '[' ≤ address.pairs

structure Clean (cs : List Char) : Prop where
  unsigned : '+' ∉ cs
  opening : cs.count '[' = 0
  closing : cs.count ']' = 0

theorem clean_of_unmarked (unmarked : ∀ mark ∈ marks, mark ≠ '%' → mark ∉ cs) : Clean cs where
  unsigned := unmarked '+' (by simp [marks]) (by decide)
  opening := List.count_eq_zero.mpr (unmarked '[' (by simp [marks]) (by decide))
  closing := List.count_eq_zero.mpr (unmarked ']' (by simp [marks]) (by decide))

theorem BareHost.clean (bare : BareHost host at_) : Clean host :=
  clean_of_unmarked fun _ listed _ => bare.unmarked listed

theorem BareHost.orderly (bare : BareHost host at_) (port : UInt16) : Orderly host (at_ port) where
  unsigned := bare.clean.unsigned
  matched := bare.clean.opening.trans bare.clean.closing.symm
  allowed := bare.clean.opening ▸ Nat.zero_le _

theorem StrictHost.orderly (strict : StrictHost host at_) (port : UInt16) :
    Orderly host (at_ port) := by
  cases strict with
  | v4 ip => exact (BareHost.v4 ip).orderly port
  | @v6 spelling zone scope zoned =>
    obtain ⟨unsigned, opening, closing⟩ := (BareHost.v6 spelling).clean
    have zone : Clean zone := clean_of_unmarked fun _ => zoned.unmarked
    constructor
    · simp [unsigned, zone.unsigned]
    · simp [opening, closing, zone.opening, zone.closing]
    · simp [opening, zone.opening, pairs]

theorem orderly_port (decimal : DecimalWord digits port.toNat) :
    Orderly (host ++ ':' :: digits) address ↔ Orderly host address := by
  have number : Clean digits := clean_of_unmarked fun _ listed _ => unmarked_decimal decimal listed
  have signs : '+' ∈ host ++ ':' :: digits ↔ '+' ∈ host := by simp [number.unsigned]
  have opening : (host ++ ':' :: digits).count '[' = host.count '[' := by simp [number.opening]
  have closing : (host ++ ':' :: digits).count ']' = host.count ']' := by simp [number.closing]
  constructor
  · intro orderly
    obtain ⟨unsigned, matched, allowed⟩ := orderly
    exact ⟨mt signs.mpr unsigned, by rw [← opening, matched, closing], opening ▸ allowed⟩
  · intro orderly
    obtain ⟨unsigned, matched, allowed⟩ := orderly
    exact ⟨mt signs.mp unsigned, by rw [opening, matched, closing], opening ▸ allowed⟩

/-- In order, a free host is either bare or in the strict notation. -/
theorem FreeHost.wellFormed (free : FreeHost host at_) (orderly : Orderly host (at_ port)) :
    StrictHost host at_ ∨ BareHost host at_ := by
  obtain ⟨opened, closed, bare⟩ := free
  have matched : opened = closed := by
    simpa [List.count_replicate, bare.clean.opening, bare.clean.closing] using orderly.matched
  have allowed : opened ≤ (at_ port).pairs := by
    simpa [List.count_replicate, bare.clean.opening] using orderly.allowed
  subst matched
  cases bare with
  | v4 ip =>
    cases Nat.le_zero.mp allowed
    exact .inr (by simpa using BareHost.v4 ip)
  | localhost same =>
    cases Nat.le_zero.mp allowed
    exact .inr (by simpa using BareHost.localhost same)
  | v6 spelling =>
    rcases Nat.le_one_iff_eq_zero_or_eq_one.mp allowed with rfl | rfl
    · exact .inr (by simpa using BareHost.v6 spelling)
    · exact .inl (StrictHost.v6 spelling .absent)

theorem WellFormed.accepted (formed : WellFormed cs address) :
    HostPort StrictHost [] cs address ∨ FreeForm cs address := by
  obtain ⟨host, at_, digits, port, strict | bare, shape, decimal, rfl⟩ := formed
  · exact .inl ⟨host, at_, digits, port, strict, shape, decimal, rfl⟩
  · have free : FreeHost host at_ := by simpa using FreeHost.bracketed 0 0 bare
    exact .inr ⟨[], .inl rfl, host, at_, digits, port, free, shape, decimal, rfl⟩

theorem WellFormed.orderly (formed : WellFormed cs address) : Orderly cs address := by
  obtain ⟨host, at_, digits, port, formed, rfl, decimal, rfl⟩ := formed
  refine (orderly_port decimal).mpr ?_
  rcases formed with strict | bare
  · exact strict.orderly port
  · exact bare.orderly port

theorem FreeForm.wellFormed (free : FreeForm cs address) (orderly : Orderly cs address) :
    WellFormed cs address := by
  obtain ⟨sign, rfl | rfl, host, at_, digits, port, free, rfl, decimal, rfl⟩ := free
  · have formed := free.wellFormed ((orderly_port decimal).mp orderly)
    exact ⟨host, at_, digits, port, formed, rfl, decimal, rfl⟩
  · exact absurd (by simp) orderly.unsigned

/-- The texts that are taken for an address, and those of them that are well formed. -/
theorem accepted_texts (text : String) (address : SocketAddress) :
    (ofText? text = some address ↔
      HostPort StrictHost [] text.toList address ∨ FreeForm text.toList address) ∧
    (WellFormed text.toList address ↔
      ofText? text = some address ∧ Orderly text.toList address) := by
  refine ⟨ofText?_eq_some_iff, ?_⟩
  rw [ofText?_eq_some_iff]
  constructor
  · intro formed
    exact ⟨formed.accepted, formed.orderly⟩
  · intro both
    obtain ⟨strict | free, orderly⟩ := both
    · obtain ⟨host, at_, digits, port, strict, shape, decimal, rfl⟩ := strict
      exact ⟨host, at_, digits, port, .inl strict, shape, decimal, rfl⟩
    · exact free.wellFormed orderly

/-- A bracket that is opened and never closed is dropped. -/
theorem lone_bracket :
    ofText? "[::1:8000" = some (.v6 ⟨[0, 0, 0, 0, 0, 0, 0, 1], rfl⟩ 0 8000) ∧
      ¬ ∃ address, WellFormed "[::1:8000".toList address := by
  refine ⟨by decide +kernel, ?_⟩
  intro some_address
  obtain ⟨address, formed⟩ := some_address
  exact absurd formed.orderly.matched (by simp)

end SiteSettings.SocketAddress
