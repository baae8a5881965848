import AnswerGraph.Rdf.Check
import Mathlib.Data.List.TakeWhile

/-!
Appending digits to an absolute URL. Once the authority has ended, or where there is none, anything
may follow; before that the digits belong to the port or to the host, and the URL is one as long as
these stay what they were.
-/

namespace AnswerGraph

section TakeWhile

variable {p : α → Bool} {xs : List α}

theorem takeWhile_append_of_stop (stops : xs.dropWhile p ≠ []) (ys : List α) :
    (xs ++ ys).takeWhile p = xs.takeWhile p := by
  rw [List.takeWhile_append, if_neg]
  intro whole
  have split : xs.takeWhile p ++ xs.dropWhile p = xs := List.takeWhile_append_dropWhile
  have lengths := congrArg List.length split
  rw [List.length_append, whole] at lengths
  exact stops (List.length_eq_zero_iff.mp (Nat.add_eq_left.mp lengths))

theorem dropWhile_append_of_stop (stops : xs.dropWhile p ≠ []) (ys : List α) :
    (xs ++ ys).dropWhile p = xs.dropWhile p ++ ys := by
  rw [List.dropWhile_append, if_neg (by simpa using stops)]

end TakeWhile

namespace Url

/-! ## What is left open -/

/-- What a URL leaves open for characters that are appended. -/
inductive Ending where
  /-- Anything may follow. -/
  | free
  /-- A port with the digits that it has so far. -/
  | port (digits : List Char)
  /-- A host of the web. -/
  | host (name : List Char)
  /-- An address in brackets, which is complete. -/
  | brackets
  deriving DecidableEq, Repr

/-- Whether digits may be appended. -/
def Ending.takes : Ending → List Char → Bool
  | free, _ => true
  | port digits, number => valueIn 10 (digits ++ number) ≤ 65535
  | host name, number => isWebHost (name ++ number)
  | brackets, _ => false

def authorityEnding (web : Bool) (text : List Char) : Ending :=
  if text.any (endsAuthority web) then .free
  else
    match cutHost web false (Text.afterLast (· == '@') text) with
    | (_, ':' :: digits) => .port digits
    | (host, _) =>
      if web then .host host else if host.head? == some '[' then .brackets else .free

def fileEnding : List Char → Ending
  | first :: second :: rest =>
    if isSlash first && isSlash second && !rest.any (endsAuthority true) then .host rest else .free
  | _ => .free

/-- What is left open by the part after a scheme. -/
def partEnding : SchemeKind → List Char → Ending
  | .web, rest => authorityEnding true (rest.dropWhile isSlash)
  | .file, rest => fileEnding rest
  | .other, '/' :: '/' :: authority => authorityEnding false authority
  | .other, _ => .free

def ending (text : List Char) : Ending :=
  match cutScheme? text with
  | none => .free
  | some (scheme, rest) => partEnding (schemeKind scheme) rest

/-- Whether the part after a scheme fits. -/
def partFits : SchemeKind → List Char → Bool
  | .web, rest => isAuthority true (rest.dropWhile isSlash)
  | .file, rest => isFilePart rest
  | .other, '/' :: '/' :: authority => isAuthority false authority
  | .other, _ => true

/-! ## Hosts -/

theorem isDigit_ne {c other : Char} (digit : c.isDigit = true) (apart : other.isDigit = false) :
    c ≠ other := by
  rintro rfl
  rw [digit] at apart
  cases apart

theorem endsAuthority_digit {c : Char} (digit : c.isDigit = true) (web : Bool) :
    endsAuthority web c = false := by
  simp [endsAuthority, isDigit_ne digit]

variable {web bracketed : Bool} {mark : Char} {front number : List Char}

/-- A character ends the host, or is part of it. -/
theorem cutHost_cases (web bracketed : Bool) (c : Char) :
    (endsAuthority web c = true ∨ c = ':') ∧
        (∀ rest, cutHost web bracketed (c :: rest) = ([], c :: rest)) ∨
      ∃ inner, ∀ rest, cutHost web bracketed (c :: rest) =
        (c :: (cutHost web inner rest).1, (cutHost web inner rest).2) := by
  by_cases stops : (endsAuthority web c || (c == ':' && !bracketed)) = true
  · refine .inl ⟨?_, fun rest => by rw [cutHost, if_pos stops]⟩
    simp only [Bool.or_eq_true, Bool.and_eq_true, beq_iff_eq] at stops
    exact stops.imp_right And.left
  · exact .inr ⟨_, fun rest => by rw [cutHost, if_neg stops]⟩

theorem cutHost_append_end (ends : endsAuthority web mark = true) (tail : List Char) :
    cutHost web bracketed (front ++ mark :: tail) =
      ((cutHost web bracketed front).1, (cutHost web bracketed front).2 ++ mark :: tail) := by
  induction front generalizing bracketed with
  | nil => simp [cutHost, ends]
  | cons c rest ih =>
    rcases cutHost_cases web bracketed c with ⟨-, stops⟩ | ⟨inner, goes⟩
    · rw [List.cons_append, stops, stops, List.cons_append]
    · rw [List.cons_append, goes, goes, ih]

theorem cutHost_append_stop (stops : (cutHost web bracketed front).2 ≠ []) (tail : List Char) :
    cutHost web bracketed (front ++ tail) =
      ((cutHost web bracketed front).1, (cutHost web bracketed front).2 ++ tail) := by
  induction front generalizing bracketed with
  | nil => exact absurd rfl stops
  | cons c rest ih =>
    rcases cutHost_cases web bracketed c with ⟨-, ended⟩ | ⟨inner, goes⟩
    · rw [List.cons_append, ended, ended, List.cons_append]
    · rw [goes] at stops
      rw [List.cons_append, goes, goes, ih stops]

theorem cutHost_digits (digits : ∀ c ∈ number, c.isDigit = true) (bracketed : Bool) :
    cutHost web bracketed number = (number, []) := by
  induction number with
  | nil => rfl
  | cons c rest ih =>
    have digit := digits c List.mem_cons_self
    have more := ih fun other member => digits other (List.mem_cons_of_mem _ member)
    rw [cutHost]
    simp [endsAuthority_digit digit, isDigit_ne digit, more]

theorem cutHost_append_digits (whole : (cutHost web bracketed front).2 = [])
    (digits : ∀ c ∈ number, c.isDigit = true) :
    cutHost web bracketed (front ++ number) =
      ((cutHost web bracketed front).1 ++ number, []) := by
  induction front generalizing bracketed with
  | nil => exact cutHost_digits digits bracketed
  | cons c rest ih =>
    rcases cutHost_cases web bracketed c with ⟨-, ended⟩ | ⟨inner, goes⟩
    · rw [ended] at whole
      cases whole
    · rw [goes] at whole
      rw [List.cons_append, goes, goes, ih whole, List.cons_append]

/-- A host ends at a colon or with the authority. -/
theorem of_cutHost_cons {c : Char} {host rest : List Char}
    (cut : cutHost web bracketed front = (host, c :: rest)) :
    front = host ++ c :: rest ∧ (endsAuthority web c = true ∨ c = ':') := by
  induction front generalizing bracketed host with
  | nil => cases cut
  | cons first more ih =>
    rcases cutHost_cases web bracketed first with ⟨ends, stops⟩ | ⟨inner, goes⟩
    · rw [stops] at cut
      cases cut
      exact ⟨rfl, ends⟩
    · rw [goes] at cut
      obtain ⟨rfl, rest_eq⟩ := Prod.mk.inj cut
      obtain ⟨same, ends⟩ := ih (Prod.ext rfl rest_eq)
      exact ⟨congrArg (first :: ·) same, ends⟩

/-! ## Ports -/

/-- Of a port that has ended, what follows is not read. -/
theorem isPort_append_end (ends : endsAuthority true mark = true) (tail other : List Char) :
    isPort (front ++ mark :: tail) = isPort (front ++ mark :: other) := by
  have notDigit : mark.isDigit = false := by
    by_contra digit
    rw [endsAuthority_digit (by simpa using digit)] at ends
    cases ends
  simp only [isPort, List.takeWhile_append, List.dropWhile_append,
    List.takeWhile_cons_of_neg (Bool.eq_false_iff.mp notDigit),
    List.dropWhile_cons_of_neg (Bool.eq_false_iff.mp notDigit)]
  cases front.dropWhile Char.isDigit <;> rfl

/-- A port that has not ended consists of digits. -/
theorem isDigit_of_isPort (fits : isPort front = true)
    (opened : ∀ c ∈ front, endsAuthority true c = false) : ∀ c ∈ front, c.isDigit = true := by
  rw [← List.dropWhile_eq_nil_iff]
  cases rest : front.dropWhile Char.isDigit with
  | nil => rfl
  | cons c more =>
    have member : c ∈ front :=
      (List.dropWhile_suffix Char.isDigit).mem (rest ▸ List.mem_cons_self)
    simp [isPort, rest, opened c member] at fits

/-- Digits that follow a port belong to it. -/
theorem isPort_append_digits (fits : isPort front = true)
    (opened : ∀ c ∈ front, endsAuthority true c = false)
    (digits : ∀ c ∈ number, c.isDigit = true) :
    isPort (front ++ number) = decide (valueIn 10 (front ++ number) ≤ 65535) := by
  have both : ∀ c ∈ front ++ number, c.isDigit = true := by
    intro c member
    exact (List.mem_append.mp member).elim (isDigit_of_isPort fits opened c) (digits c)
  rw [isPort, List.takeWhile_eq_self_iff.mpr both, List.dropWhile_eq_nil_iff.mpr both]
  simp

/-! ## Authorities -/

/-- The user and password of an authority. -/
def credentials (authority : List Char) : List Char :=
  authority.take (authority.length - (Text.afterLast (· == '@') authority).length - 1)

/-- Whether a host and what follows it fit. -/
def hostFits (web named : Bool) (host rest : List Char) : Bool :=
  let portFits :=
    match rest with
    | ':' :: port => isPort port
    | _ => true
  if web then !host.isEmpty && isWebHost host && portFits
  else isPlainHost host && portFits && (!host.isEmpty || (rest.head? != some ':' && !named))

/-- Whether an authority fits and what lies beyond it. -/
def authorityFits (web : Bool) (authority beyond : List Char) : Bool :=
  let hostPart := Text.afterLast (· == '@') authority
  if authority.contains '@' && (credentials authority).isEmpty && hostPart.isEmpty &&
      !beyond.isEmpty then false
  else
    let (host, rest) := cutHost web false (hostPart ++ beyond)
    hostFits web (authority.contains '@' && namesUser (credentials authority)) host rest

theorem isAuthority_eq (web : Bool) (text : List Char) :
    isAuthority web text = authorityFits web (text.takeWhile (!endsAuthority web ·))
      (text.dropWhile (!endsAuthority web ·)) := by
  rfl

theorem endsAuthority_web (ends : endsAuthority web mark = true) :
    endsAuthority true mark = true := by
  cases web with
  | true => exact ends
  | false =>
    simp only [endsAuthority, Bool.false_and, Bool.or_false] at ends
    simp [endsAuthority, ends]

/-- Of an authority that has ended, what follows is not read. -/
theorem authorityFits_end (ends : endsAuthority web mark = true)
    (authority tail other : List Char) :
    authorityFits web authority (mark :: tail) = authorityFits web authority (mark :: other) := by
  have notColon : mark ≠ ':' := by
    rintro rfl
    cases web <;> exact absurd ends (by decide)
  have same (named : Bool) (host rest : List Char) :
      hostFits web named host (rest ++ mark :: tail) =
        hostFits web named host (rest ++ mark :: other) := by
    cases rest with
    | nil => simp [hostFits, notColon]
    | cons c port =>
      by_cases colon : c = ':'
      · subst c
        have unread : isPort (port ++ mark :: tail) = isPort (port ++ mark :: other) :=
          isPort_append_end (endsAuthority_web ends) tail other
        simp [hostFits, unread]
      · simp [hostFits, colon]
  simp only [authorityFits, cutHost_append_end ends, same, List.isEmpty_cons]

theorem afterLast_append {mark : Char → Bool} (unmarked : ∀ c ∈ number, mark c = false) :
    Text.afterLast mark (front ++ number) = Text.afterLast mark front ++ number := by
  rw [Text.afterLast, List.reverse_append,
    List.takeWhile_append_of_pos fun c member => by
      simp [unmarked c (List.mem_reverse.mp member)],
    List.reverse_append, List.reverse_reverse, Text.afterLast]

theorem afterLast_suffix (mark : Char → Bool) (text : List Char) :
    Text.afterLast mark text <:+ text := by
  rw [Text.afterLast, ← List.reverse_prefix, List.reverse_reverse]
  exact List.takeWhile_prefix _

theorem toNat_digit {c : Char} (digit : c.isDigit = true) : 48 ≤ c.toNat := by
  simp only [Char.isDigit, Bool.and_eq_true, decide_eq_true_eq] at digit
  exact digit.1

/-- A digit is none of some marks that are no digits. -/
theorem unlisted_of_isDigit {marks : List Char} (plain : marks.any Char.isDigit = false) {c : Char}
    (digit : c.isDigit = true) : c ∉ marks := fun listed =>
  absurd (List.any_eq_true.mpr ⟨c, listed, digit⟩) (by simp [plain])

theorem isForbiddenInHost_digit {c : Char} (digit : c.isDigit = true) :
    isForbiddenInHost c = false := by
  have unlisted : c ∉ "\t\n\r #/:<>?@[\\]^|".toList := unlisted_of_isDigit rfl digit
  have filled : c.toNat ≠ 0 := by
    have above := toNat_digit digit
    omega
  simp only [isForbiddenInHost, List.contains_eq_mem, unlisted, decide_false, Bool.or_false,
    beq_eq_false_iff_ne]
  exact filled

theorem isSlash_digit {c : Char} (digit : c.isDigit = true) : isSlash c = false := by
  simp [isSlash, isDigit_ne digit]

/-- A scheme starts with a letter and ends at the first colon. -/
theorem of_cutScheme? {text scheme rest : List Char}
    (cut : cutScheme? text = some (scheme, rest)) :
    ∃ first others, text = first :: others ∧ first.isAlpha = true ∧
      text.dropWhile isSchemeChar = ':' :: rest ∧
      scheme = (text.takeWhile isSchemeChar).map Char.toLower := by
  cases text with
  | nil => cases cut
  | cons first others =>
    have letter : first.isAlpha = true := by
      by_contra other
      simp [cutScheme?, other] at cut
    simp only [cutScheme?, letter, Bool.not_true, Bool.false_eq_true, if_false] at cut
    split at cut
    · next tail colon =>
      cases cut
      exact ⟨first, others, rfl, letter, colon, rfl⟩
    · cases cut

theorem cutScheme?_append {text scheme rest : List Char}
    (cut : cutScheme? text = some (scheme, rest)) (more : List Char) :
    cutScheme? (text ++ more) = some (scheme, rest ++ more) := by
  obtain ⟨first, others, rfl, letter, colon, rfl⟩ := of_cutScheme? cut
  have stops : (first :: others).dropWhile isSchemeChar ≠ [] := by simp [colon]
  rw [List.cons_append, cutScheme?, ← List.cons_append, takeWhile_append_of_stop stops,
    dropWhile_append_of_stop stops, colon]
  simp [letter]

/-- Nothing is cut out of a text without blanks and controls. -/
theorem clean_of_solid {text : List Char} (solid : ∀ c ∈ text, 32 < c.toNat) :
    clean text = text := by
  have kept (part : List Char) (within : ∀ c ∈ part, 32 < c.toNat) :
      part.dropWhile (fun c => decide (c.toNat ≤ 32)) = part := by
    cases part with
    | nil => rfl
    | cons c rest =>
      exact List.dropWhile_cons_of_neg (by simpa using within c List.mem_cons_self)
  have back := kept text.reverse fun c member => solid c (List.mem_reverse.mp member)
  rw [clean, kept text solid, back, List.reverse_reverse, List.filter_eq_self]
  intro c member
  have other {mark : Char} (low : mark.toNat ≤ 32) : c ≠ mark := by
    rintro rfl
    exact absurd (solid _ member) (Nat.not_lt.mpr low)
  have noTab : c ≠ '\t' := other (by decide)
  have noFeed : c ≠ '\n' := other (by decide)
  have noReturn : c ≠ '\r' := other (by decide)
  simp [noTab, noFeed, noReturn]

theorem solid_of_allowed {c : Char} (allowed : isForbiddenInIri c = false) : 32 < c.toNat := by
  simp only [isForbiddenInIri, Bool.or_eq_false_iff, decide_eq_false_iff_not] at allowed
  exact Nat.not_le.mp allowed.1

theorem isSome_ite (fits : Bool) (value : α) :
    (if fits = true then some value else none).isSome = fits := by
  cases fits <;> rfl

/-- A text is a URL if it has a scheme and the part after it fits. -/
theorem isSome_ofText? (text : List Char) :
    (ofText? text).isSome = (cutScheme? (clean text)).any fun (scheme, rest) =>
      partFits (schemeKind scheme) rest := by
  rw [ofText?]
  cases cutScheme? (clean text) with
  | none => rfl
  | some parts =>
    obtain ⟨scheme, rest⟩ := parts
    simp only [Option.bind_eq_bind, Option.bind_some, Option.any_some]
    cases schemeKind scheme with
    | web => exact isSome_ite _ _
    | file => exact isSome_ite _ _
    | other =>
      dsimp only
      split
      · exact isSome_ite _ _
      · next apart =>
        rw [partFits]
        · rfl
        · exact fun authority same => apart authority (List.cons.inj same).2
      · next apart _ =>
        rw [partFits]
        · rfl
        · exact apart

/-- An authority is open, or something ends it. -/
theorem opened_or_ended (web : Bool) (text : List Char) :
    (∀ c ∈ text, endsAuthority web c = false) ∨
      ∃ mark tail, text.dropWhile (!endsAuthority web ·) = mark :: tail ∧
        endsAuthority web mark = true ∧ text.any (endsAuthority web) = true := by
  cases beyond : text.dropWhile (!endsAuthority web ·) with
  | nil => exact .inl (by simpa using List.dropWhile_eq_nil_iff.mp beyond)
  | cons mark tail =>
    have stops : text.dropWhile (!endsAuthority web ·) ≠ [] := by simp [beyond]
    have first := List.head_dropWhile_not (!endsAuthority web ·) stops
    have ends : endsAuthority web mark = true := by simpa [beyond] using first
    have member : mark ∈ text := (List.dropWhile_suffix _).mem (beyond ▸ List.mem_cons_self)
    exact .inr ⟨mark, tail, rfl, ends, List.any_eq_true.mpr ⟨mark, member, ends⟩⟩

section Digits

variable (digits : ∀ c ∈ number, c.isDigit = true)
include digits

theorem credentials_append : credentials (front ++ number) = credentials front := by
  have unmarked : ∀ c ∈ number, (c == '@') = false := fun c member => by
    simpa using isDigit_ne (digits c member) (by decide)
  have shorter := (afterLast_suffix (· == '@') front).length_le
  have same : (front ++ number).length - (Text.afterLast (· == '@') front ++ number).length - 1 =
      front.length - (Text.afterLast (· == '@') front).length - 1 := by
    simp only [List.length_append]
    omega
  rw [credentials, afterLast_append unmarked, same, List.take_append_of_le_length (by omega),
    credentials]

theorem opened_append (opened : ∀ c ∈ front, endsAuthority web c = false) :
    ∀ c ∈ front ++ number, (!endsAuthority web c) = true := by
  intro c member
  rcases List.mem_append.mp member with early | late
  · simp [opened c early]
  · simp [endsAuthority_digit (digits c late)]

/-- Digits may follow a host that is not of the web, unless it is in brackets. -/
theorem isPlainHost_append (fits : isPlainHost front = true) (filled : number ≠ []) :
    isPlainHost (front ++ number) = (front.head? != some '[') := by
  by_cases bracket : front.head? = some '['
  · obtain ⟨inner, rfl⟩ : ∃ inner, front = '[' :: inner := by
      cases front with
      | nil => cases bracket
      | cons c inner => exact ⟨inner, by rw [Option.some.inj bracket]⟩
    have last : number.getLast filled ≠ ']' :=
      isDigit_ne (digits _ (List.getLast_mem filled)) (by decide)
    simp [isPlainHost, inBrackets?, List.getLast?_append,
      List.getLast?_eq_some_getLast filled, last]
  · have start : (front ++ number).head? ≠ some '[' := by
      cases front with
      | nil =>
        intro first
        exact isDigit_ne (digits _ (List.mem_of_mem_head? first)) (by decide) rfl
      | cons c inner => exact bracket
    have allowed : ∀ c ∈ number, isForbiddenInHost c = false :=
      fun c member => isForbiddenInHost_digit (digits c member)
    have none : number.any isForbiddenInHost = false := by simpa using allowed
    simp only [isPlainHost, beq_iff_eq, bracket, if_false, Bool.not_eq_true'] at fits
    rw [isPlainHost, if_neg (by simpa using start), List.any_append, fits, none]
    simp [bracket]

/-- Digits that follow a host belong to it. -/
theorem hostFits_append_host {named : Bool} {host : List Char}
    (fits : hostFits web named host [] = true) (filled : number ≠ []) :
    hostFits web named (host ++ number) [] =
      Ending.takes (if web then .host host else if host.head? == some '[' then .brackets else .free)
        number := by
  cases web with
  | true => simp [hostFits, Ending.takes, filled]
  | false =>
    have plain : isPlainHost host = true := by
      simp only [hostFits, Bool.false_eq_true, if_false, Bool.and_true, Bool.and_eq_true] at fits
      exact fits.1
    have grown := isPlainHost_append digits plain filled
    by_cases bracket : host.head? = some '['
    · simp [hostFits, grown, bracket, Ending.takes]
    · simp [hostFits, grown, bracket, filled, Ending.takes]

/-- Digits that follow a port belong to it. -/
theorem hostFits_append_port {named : Bool} {host port : List Char}
    (fits : hostFits web named host (':' :: port) = true)
    (opened : ∀ c ∈ port, endsAuthority true c = false) :
    hostFits web named host (':' :: (port ++ number)) = (Ending.port port).takes number := by
  have fitsPort : isPort port = true := by
    cases web <;> simp_all [hostFits]
  rw [Ending.takes, ← isPort_append_digits fitsPort opened digits]
  cases web <;> simp_all [hostFits]

/-- Digits that follow an open authority belong to its host or port. -/
theorem authorityFits_digits {text : List Char} (fits : authorityFits web text [] = true)
    (opened : ∀ c ∈ text, endsAuthority true c = false) (filled : number ≠ []) :
    authorityFits web (text ++ number) [] = (authorityEnding web text).takes number := by
  have unmarked : ∀ c ∈ number, (c == '@') = false := fun c member => by
    simpa using isDigit_ne (digits c member) (by decide)
  have within : ∀ c ∈ text, endsAuthority web c = false := fun c member => by
    by_contra ends
    exact absurd (endsAuthority_web (by simpa using ends)) (by simp [opened c member])
  have sameAt : (text ++ number).contains '@' = text.contains '@' := by
    have foreign : '@' ∉ number := fun member => absurd (unmarked _ member) (by decide)
    simp [foreign]
  have inner : ∀ c ∈ Text.afterLast (· == '@') text, c ∈ text :=
    fun c member => (afterLast_suffix _ text).mem member
  simp only [authorityFits, List.isEmpty_nil, Bool.not_true, Bool.and_false, Bool.false_eq_true,
    if_false, List.append_nil] at fits ⊢
  rw [sameAt, credentials_append digits, afterLast_append unmarked, authorityEnding,
    if_neg (by simpa using within)]
  generalize Text.afterLast (· == '@') text = hostPart at fits inner ⊢
  obtain ⟨host, rest, cut⟩ : ∃ host rest, cutHost web false hostPart = (host, rest) :=
    ⟨_, _, rfl⟩
  cases rest with
  | nil =>
    have moved := @cutHost_append_digits web false hostPart number (by rw [cut]) digits
    rw [cut] at fits moved
    rw [cut, moved]
    exact hostFits_append_host digits fits filled
  | cons c port =>
    obtain ⟨rfl, ends⟩ := of_cutHost_cons cut
    obtain rfl : c = ':' := by
      refine ends.resolve_left fun stops => ?_
      rw [within c (inner c (by simp))] at stops
      cases stops
    have moved := @cutHost_append_stop web false (host ++ ':' :: port) (by simp [cut]) number
    rw [cut] at fits moved
    rw [cut, moved]
    exact hostFits_append_port digits fits fun c member => opened c (inner c (by simp [member]))

/-- Of an authority that has ended, nothing more is read; otherwise digits go on with it. -/
theorem isAuthority_append_digits {text : List Char} (fits : isAuthority web text = true)
    (written : '\\' ∉ text) (filled : number ≠ []) :
    isAuthority web (text ++ number) = (authorityEnding web text).takes number := by
  rw [isAuthority_eq] at fits ⊢
  rcases opened_or_ended web text with opened | ⟨mark, tail, beyond, ends, some⟩
  · have both : ∀ c ∈ text, endsAuthority true c = false := by
      intro c member
      have apart : c ≠ '\\' := by
        rintro rfl
        exact written member
      have inside := opened c member
      cases web <;> simp_all [endsAuthority]
    have within : ∀ c ∈ text, (!endsAuthority web c) = true := by simpa using opened
    have further := opened_append digits opened
    rw [List.takeWhile_eq_self_iff.mpr within, List.dropWhile_eq_nil_iff.mpr within] at fits
    rw [List.takeWhile_eq_self_iff.mpr further, List.dropWhile_eq_nil_iff.mpr further]
    exact authorityFits_digits digits fits both filled
  · have stops : text.dropWhile (!endsAuthority web ·) ≠ [] := by simp [beyond]
    have closed : authorityEnding web text = .free := by rw [authorityEnding, if_pos some]
    rw [beyond] at fits
    rw [takeWhile_append_of_stop stops, dropWhile_append_of_stop stops, beyond, List.cons_append,
      authorityFits_end ends _ _ tail, fits, closed]
    rfl

/-! ## URLs -/

theorem isDrive_append (front : List Char) (filled : number ≠ []) :
    isDrive (front ++ number) = false := by
  by_contra drive
  obtain ⟨letter, mark, pair, named⟩ : ∃ letter mark, front ++ number = [letter, mark] ∧
      (mark = ':' ∨ mark = '|') := by
    unfold isDrive at drive
    split at drive
    · next letter mark pair =>
      simp only [Bool.not_eq_false, Bool.and_eq_true, Bool.or_eq_true, beq_iff_eq] at drive
      exact ⟨letter, mark, pair, drive.2⟩
    · exact absurd rfl drive
  have last : number.getLast? = some mark := by
    have whole := congrArg List.getLast? pair
    rw [List.getLast?_append, List.getLast?_eq_some_getLast filled] at whole
    rw [List.getLast?_eq_some_getLast filled]
    simpa using whole
  have digit := digits mark (List.mem_of_getLast? last)
  rcases named with rfl | rfl <;> cases digit

/-- Digits that follow a host after `file:` belong to it. -/
theorem isFilePart_append_digits {rest : List Char} (fits : isFilePart rest = true)
    (filled : number ≠ []) :
    isFilePart (rest ++ number) = (fileEnding rest).takes number := by
  obtain ⟨d, more, rfl⟩ := List.exists_cons_of_ne_nil filled
  have digit : isSlash d = false := isSlash_digit (digits d List.mem_cons_self)
  match rest with
  | [] => cases more <;> simp [isFilePart, fileEnding, Ending.takes, digit]
  | [first] => simp [isFilePart, fileEnding, Ending.takes, digit]
  | first :: second :: host =>
    by_cases slashes : (isSlash first && isSlash second) = true
    · rcases opened_or_ended true host with opened | ⟨mark, tail, beyond, ends, some⟩
      · have none : host.any (endsAuthority true) = false := by simpa using opened
        have further := opened_append digits opened
        simp only [List.cons_append, isFilePart, slashes, if_true, fileEnding, none,
          Bool.not_false, Bool.and_true, List.takeWhile_eq_self_iff.mpr further, Ending.takes,
          isDrive_append digits host filled]
        simp
      · have stops : host.dropWhile (!endsAuthority true ·) ≠ [] := by simp [beyond]
        simp only [isFilePart, slashes, if_true] at fits
        simp only [List.cons_append, isFilePart, slashes, if_true, fileEnding, some,
          Bool.not_true, Bool.and_false, Bool.false_eq_true, if_false, Ending.takes,
          takeWhile_append_of_stop stops, fits]
    · simp [isFilePart, fileEnding, slashes, Ending.takes]

/-- Digits that follow the part after a scheme go on with what it leaves open. -/
theorem partFits_append_digits {kind : SchemeKind} {rest : List Char}
    (fits : partFits kind rest = true) (written : '\\' ∉ rest) (filled : number ≠ []) :
    partFits kind (rest ++ number) = (partEnding kind rest).takes number := by
  cases kind with
  | web =>
    rw [partFits] at fits ⊢
    have filledHost : rest.dropWhile isSlash ≠ [] := by
      intro none
      rw [none] at fits
      exact absurd fits (by decide)
    rw [dropWhile_append_of_stop filledHost]
    exact isAuthority_append_digits digits fits
      (fun member => written ((List.dropWhile_suffix _).mem member)) filled
  | file => exact isFilePart_append_digits digits fits filled
  | other =>
    obtain ⟨d, more, rfl⟩ := List.exists_cons_of_ne_nil filled
    have digit : d ≠ '/' := isDigit_ne (digits d List.mem_cons_self) (by decide)
    match rest with
    | [] => simp [partFits, partEnding, digit, Ending.takes]
    | [first] => simp [partFits, partEnding, digit, Ending.takes]
    | first :: second :: authority =>
      by_cases slashes : first = '/' ∧ second = '/'
      · obtain ⟨rfl, rfl⟩ := slashes
        have unslashed : '\\' ∉ authority := fun member =>
          written (List.mem_cons_of_mem _ (List.mem_cons_of_mem _ member))
        exact isAuthority_append_digits digits fits unslashed filled
      · by_cases slash : first = '/'
        · have apart : second ≠ '/' := fun same => slashes ⟨slash, same⟩
          simp [partFits, partEnding, slash, apart, Ending.takes]
        · simp [partFits, partEnding, slash, Ending.takes]

/-- Whether a URL to which digits are appended is one still. -/
theorem ofText?_append_digits {text : List Char} (accepted : (ofText? text).isSome = true)
    (written : ∀ c ∈ text, isForbiddenInIri c = false) (filled : number ≠ []) :
    (ofText? (text ++ number)).isSome = (ending text).takes number := by
  have solid : ∀ c ∈ text ++ number, 32 < c.toNat := by
    intro c member
    rcases List.mem_append.mp member with early | late
    · exact solid_of_allowed (written c early)
    · exact Nat.lt_of_lt_of_le (by decide) (toNat_digit (digits c late))
  have before := clean_of_solid fun c member => solid c (List.mem_append_left _ member)
  rw [isSome_ofText?, before] at accepted
  rw [isSome_ofText?, clean_of_solid solid, ending]
  cases cut : cutScheme? text with
  | none =>
    rw [cut] at accepted
    cases accepted
  | some parts =>
    obtain ⟨scheme, rest⟩ := parts
    have straight : '\\' ∉ rest := fun member => by
      obtain ⟨_, _, _, _, colon, _⟩ := of_cutScheme? cut
      have within := (List.dropWhile_suffix isSchemeChar).mem
        (colon ▸ List.mem_cons_of_mem _ member)
      exact absurd (written _ within) (by decide)
    rw [cut] at accepted
    rw [cutScheme?_append cut]
    exact partFits_append_digits digits accepted straight filled

end Digits

end Url

end AnswerGraph
