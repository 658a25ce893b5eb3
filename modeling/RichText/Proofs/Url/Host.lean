import RichText.Proofs.Text.Ascii
import RichText.Proofs.Text.Join
import RichText.Proofs.Text.Pieces
import RichText.Proofs.Text.Span
import RichText.Url

/-!
Which web addresses lead away from a site. The user, the port, the path and the query of an address have
no part in it: an address stays within a site exactly if the labels of the site's domain are the last
labels of its host. So a host that only ends in the letters of the domain is a foreign one.
-/

namespace RichText

namespace Url

/-! ## Domains and their labels -/

/-- The labels of a host, between its points. -/
def labels (host : Text) : List Text := Text.pieces (· = '.') host

/-- A domain in small letters, without the points in front of it. -/
def bareDomain (domain : Text) : Text := (Text.lower domain).dropWhile (· = '.')

/-- A host ends with a point and a domain, or is that domain, exactly if the labels of the domain are its
last labels. -/
theorem is_within_iff (host domain : Text) :
    isWithin host domain = true ↔ labels domain <:+ labels host := by
  have cut (before : Text) : labels (before ++ '.' :: domain) = labels before ++ labels domain :=
    Text.pieces_at (by decide)
  rw [isWithin, Bool.or_eq_true, decide_eq_true_eq, Text.endsWith, List.isSuffixOf_iff_suffix]
  constructor
  · rintro (rfl | ⟨before, rfl⟩)
    · exact List.suffix_rfl
    · rw [cut]
      exact List.suffix_append _ _
  · rintro ⟨front, parts⟩
    have whole : host = Text.join ['.'] (front ++ labels domain) := by
      rw [parts]
      exact (Text.join_pieces '.' host).symm
    have own : Text.join ['.'] (labels domain) = domain := Text.join_pieces '.' domain
    by_cases none : front = []
    · subst front
      exact .inl (whole.trans own)
    · right
      have present : labels domain ≠ [] := Text.pieces_present _ domain
      rw [whole, Text.join_append ['.'] none present, own, List.append_assoc]
      exact List.suffix_append _ _

/-! ## Web addresses -/

/-- A character that may stand in front of the at sign of an address. -/
def isUserChar (char : Char) : Bool :=
  32 ≤ char.toNat && char.toNat < 128 && !(List.contains ['/', '?', '#', '@', '[', ']'] char)

def isHostChar (char : Char) : Bool :=
  Text.isAsciiLetter char || Text.isAsciiDigit char || char = '-' || char = '.'

end Url

/-- An address of the web in its parts. -/
structure WebAddress where
  /-- None where the address starts with the two slashes. -/
  scheme : Option Text
  user : Option Text
  host : Text
  port : Option Text
  /-- Path, query and fragment, with the sign that each of them starts with. -/
  rest : Text
  web : ∀ name ∈ scheme, name.map Char.toLower = "http" ∨ name.map Char.toLower = "https"
  userChars : ∀ name ∈ user, name.all Url.isUserChar = true
  hostPresent : host ≠ []
  hostChars : host.all Url.isHostChar = true
  portDigits : ∀ digits ∈ port, digits.all Text.isAsciiDigit = true
  restApart : ∀ first ∈ rest.head?, Url.endsAuthority first = true

namespace WebAddress

/-- The user with the at sign behind it. -/
def userText (address : WebAddress) : Text :=
  match address.user with
  | some name => name ++ "@"
  | none => []

/-- The port with the colon in front of it. -/
def portText (address : WebAddress) : Text :=
  match address.port with
  | some digits => ':' :: digits
  | none => []

/-- What stands between the two slashes and the path. -/
def authority (address : WebAddress) : Text := address.userText ++ (address.host ++ address.portText)

def toText (address : WebAddress) : Text :=
  (match address.scheme with
    | some name => name ++ "://"
    | none => "//") ++ (address.authority ++ address.rest)

/-- The scheme, which is the secure one where none is written. -/
def usedScheme (address : WebAddress) : Text := address.scheme.getD "https"

end WebAddress

/-! ## Reading an address -/

namespace Url

section Characters

variable {char : Char}

/-- A character of a user, a host or a port: none that ends the part of the address that they are in, and
no bracket. -/
structure Plain (char : Char) : Prop where
  visible : 32 ≤ char.toNat
  ascii : char.toNat < 128
  inside : endsAuthority char = false
  notBracket : char ≠ '[' ∧ char ≠ ']'

theorem host_code (host : isHostChar char = true) :
    45 ≤ char.toNat ∧ char.toNat ≤ 46 ∨ 48 ≤ char.toNat ∧ char.toNat ≤ 57 ∨
      65 ≤ char.toNat ∧ char.toNat ≤ 90 ∨ 97 ≤ char.toNat ∧ char.toNat ≤ 122 := by
  simp only [isHostChar, Bool.or_eq_true, decide_eq_true_eq] at host
  rcases host with ((letter | digit) | rfl) | rfl
  · exact .inr (.inr (Text.ascii_letter_code letter))
  · exact .inr (.inl (Text.ascii_digit_code digit))
  · decide
  · decide

theorem plain_of_code (visible : 32 ≤ char.toNat) (ascii : char.toNat < 128)
    (others : char.toNat ≠ 35 ∧ char.toNat ≠ 47 ∧ char.toNat ≠ 63 ∧ char.toNat ≠ 91 ∧
      char.toNat ≠ 93) : Plain char := by
  obtain ⟨hash, slash, question, opening, closing⟩ := others
  have inside : endsAuthority char = false := by
    simp only [endsAuthority, Bool.or_eq_false_iff, decide_eq_false_iff_not]
    exact ⟨⟨Text.apart_of_code slash, Text.apart_of_code question⟩, Text.apart_of_code hash⟩
  exact ⟨visible, ascii, inside, Text.apart_of_code opening, Text.apart_of_code closing⟩

theorem plain_of_user (user : isUserChar char = true) : Plain char ∧ char ≠ '@' := by
  simp only [isUserChar, Bool.and_eq_true, decide_eq_true_eq, Bool.not_eq_true',
    List.contains_eq_mem, decide_eq_false_iff_not, List.mem_cons, List.not_mem_nil, or_false,
    not_or] at user
  obtain ⟨⟨visible, ascii⟩, slash, question, hash, sign, brackets⟩ := user
  exact ⟨⟨visible, ascii, by simp [endsAuthority, slash, question, hash], brackets⟩, sign⟩

theorem plain_of_host (host : isHostChar char = true) : Plain char ∧ char ≠ '@' ∧ char ≠ ':' := by
  have code := host_code host
  refine ⟨plain_of_code (by omega) (by omega) (by omega), Text.apart_of_code ?_, Text.apart_of_code ?_⟩
  · change char.toNat ≠ 64
    omega
  · change char.toNat ≠ 58
    omega

theorem plain_of_digit (digit : Text.isAsciiDigit char = true) : Plain char ∧ char ≠ '@' := by
  have code := Text.ascii_digit_code digit
  refine ⟨plain_of_code (by omega) (by omega) (by omega), Text.apart_of_code ?_⟩
  change char.toNat ≠ 64
  omega

end Characters

section Parts

variable {first : Char} {name front body rest : Text}

/-- A character that cleaning leaves in an address. -/
def staysIn (char : Char) : Bool := !(char = '\t' || char = '\n' || char = '\r')

theorem stays_of_visible {char : Char} (visible : 32 ≤ char.toNat) : staysIn char = true := by
  have other (control : Char) (below : control.toNat < 32) : char ≠ control := by
    rintro rfl
    omega
  simp [staysIn, other '\t' (by decide), other '\n' (by decide), other '\r' (by decide)]

theorem stays_of_end {char : Char} (ends : endsAuthority char = true) : staysIn char = true := by
  simp only [endsAuthority, Bool.or_eq_true, decide_eq_true_eq] at ends
  rcases ends with (rfl | rfl) | rfl
  all_goals decide

/-- Cleaning changes nothing of an address in front of the path, and the path starts as before. -/
theorem cleaned_front (starts : 32 < first.toNat) (visible : ∀ char ∈ front, 32 ≤ char.toNat)
    (apart : ∀ char ∈ rest.head?, endsAuthority char = true) :
    ∃ others, cleaned (first :: (front ++ rest)) = first :: (front ++ others) ∧
      ∀ char ∈ others.head?, endsAuthority char = true := by
  refine ⟨rest.filter staysIn, ?_, ?_⟩
  · have kept : front.filter staysIn = front :=
      List.filter_eq_self.mpr fun char member => stays_of_visible (visible char member)
    have cleans (url : Text) :
        cleaned url = (url.dropWhile fun char => char.toNat ≤ 32).filter staysIn := rfl
    rw [cleans, List.dropWhile_cons_of_neg (by simpa using starts),
      List.filter_cons_of_pos (stays_of_visible starts.le), List.filter_append, kept]
  · cases rest with
    | nil => exact nofun
    | cons stop rest =>
        have ends := apart stop rfl
        rw [List.filter_cons_of_pos (stays_of_end ends)]
        rintro char ⟨rfl⟩
        exact ends

theorem split_scheme_named (present : name ≠ []) (letters : name.all Text.isAsciiLetter = true) :
    splitScheme (name ++ ':' :: rest) = (Text.lower name, rest) := by
  have letter := List.all_eq_true.mp letters
  have free : ':' ∉ name := fun member => absurd (letter ':' member) (by decide)
  have schemeChars : name.all isSchemeChar = true := by
    rw [List.all_eq_true]
    intro char member
    rw [isSchemeChar, letter char member]
    rfl
  unfold splitScheme
  rw [Text.take_until free, Text.drop_until free]
  cases name with
  | nil => exact absurd rfl present
  | cons first name =>
      simp only [letter first List.mem_cons_self, schemeChars, Bool.and_self, if_true]

theorem authority_taken (plain : ∀ char ∈ body, Plain char)
    (apart : ∀ char ∈ rest.head?, endsAuthority char = true) :
    authority ('/' :: '/' :: (body ++ rest)) = body := by
  have inside : ∀ char ∈ body, (!endsAuthority char) = true := by
    intro char member
    rw [(plain char member).inside]
    rfl
  rw [authority]
  cases rest with
  | nil => rw [List.append_nil, List.takeWhile_eq_self_iff.mpr inside]
  | cons stop rest =>
      apply Text.take_run inside
      rw [apart stop rfl]
      rfl

theorem check_authority_plain (plain : ∀ char ∈ body, Plain char) : checkAuthority body = .ok () := by
  have noOpening : body.contains '[' = false := by
    simpa using fun member => (plain _ member).notBracket.1 rfl
  have noClosing : body.contains ']' = false := by
    simpa using fun member => (plain _ member).notBracket.2 rfl
  have beyond := List.all_eq_true.mp (by decide : (disguises.all fun char => 128 ≤ char.toNat) = true)
  have noDisguise : body.any disguises.contains = false := by
    rw [List.any_eq_false]
    intro char member disguise
    have ascii := (plain char member).ascii
    have code := of_decide_eq_true (beyond char (List.contains_iff_mem.mp disguise))
    omega
  unfold checkAuthority
  simp only [noOpening, noClosing, noDisguise]
  rfl

theorem after_last_run {stop : Char} (absent : stop ∉ body) (front : Text) :
    afterLast stop (front ++ stop :: body) = body ∧ afterLast stop body = body := by
  have free : stop ∉ body.reverse := mt List.mem_reverse.mp absent
  constructor
  · have turned : (front ++ stop :: body).reverse = body.reverse ++ stop :: front.reverse := by simp
    rw [afterLast, turned, Text.take_until free, List.reverse_reverse]
  · rw [afterLast, List.takeWhile_eq_self_iff.mpr (Text.apart_of_free free), List.reverse_reverse]

end Parts

end Url

namespace WebAddress

variable (address : WebAddress)

open Url

theorem host_plain : ∀ char ∈ address.host, Plain char ∧ char ≠ '@' ∧ char ≠ ':' :=
  fun char member => plain_of_host (List.all_eq_true.mp address.hostChars char member)

theorem port_plain : ∀ char ∈ address.portText, Plain char ∧ char ≠ '@' := by
  unfold portText
  split
  · rename_i digits given
    have digit := List.all_eq_true.mp (address.portDigits digits given)
    exact List.forall_mem_cons.mpr
      ⟨⟨plain_of_code (by decide) (by decide) (by decide), by decide⟩,
        fun char member => plain_of_digit (digit char member)⟩
  · exact List.forall_mem_nil _

theorem authority_plain : ∀ char ∈ address.authority, Plain char := by
  have user : ∀ char ∈ address.userText, Plain char := by
    unfold userText
    split
    · rename_i name given
      have userChar := List.all_eq_true.mp (address.userChars name given)
      exact List.forall_mem_append.mpr
        ⟨fun char member => (plain_of_user (userChar char member)).1,
          List.forall_mem_singleton.mpr (plain_of_code (by decide) (by decide) (by decide))⟩
    · exact List.forall_mem_nil _
  exact List.forall_mem_append.mpr ⟨user, List.forall_mem_append.mpr
    ⟨fun char member => (address.host_plain char member).1,
      fun char member => (address.port_plain char member).1⟩⟩

/-- The user is not taken for the host, nor the port for a part of it. -/
theorem host_of_authority : hostOf address.authority = Text.lower address.host := by
  have place : afterLast '@' address.authority = address.host ++ address.portText := by
    have absent : '@' ∉ address.host ++ address.portText := by
      rw [List.mem_append, not_or]
      exact ⟨fun member => (address.host_plain _ member).2.1 rfl,
        fun member => (address.port_plain _ member).2 rfl⟩
    unfold authority userText
    split
    · rename_i name _
      rw [List.append_assoc]
      exact (after_last_run absent name).1
    · exact (after_last_run absent []).2
  have noBracket : (address.host ++ address.portText).contains '[' = false := by
    rw [List.contains_eq_mem, decide_eq_false_iff_not, List.mem_append, not_or]
    exact ⟨fun member => (address.host_plain _ member).1.notBracket.1 rfl,
      fun member => (address.port_plain _ member).1.notBracket.1 rfl⟩
  have host : (address.host ++ address.portText).takeWhile (fun char => decide (char ≠ ':')) =
      address.host := by
    have free : ':' ∉ address.host := fun member => (address.host_plain _ member).2.2 rfl
    unfold portText
    split
    · exact Text.take_until free
    · rw [List.append_nil, List.takeWhile_eq_self_iff.mpr (Text.apart_of_free free)]
  rw [hostOf, place]
  simp only [noBracket, Bool.false_eq_true, if_false]
  exact congrArg Text.lower host

/-- The scheme in any letter case: letters that make up one of two words. -/
theorem scheme_letters : address.usedScheme ≠ [] ∧
    address.usedScheme.all Text.isAsciiLetter = true ∧
      (Text.lower address.usedScheme = "http" ∨ Text.lower address.usedScheme = "https") := by
  have spelled (name word : Text) (same : name.map Char.toLower = word) (present : word ≠ [])
      (letters : word.all Text.isAsciiLetter = true) :
      name ≠ [] ∧ name.all Text.isAsciiLetter = true ∧ Text.lower name = word := by
    subst same
    have own : ∀ char ∈ name, Text.isAsciiLetter char = true := by
      intro char member
      exact Text.ascii_letter_of_lower
        (List.all_eq_true.mp letters char.toLower (List.mem_map_of_mem member))
    have ascii : ∀ char ∈ name, char.toNat < 128 := by
      intro char member
      have code := Text.ascii_letter_code (own char member)
      omega
    exact ⟨fun none => present (by rw [none]; rfl), List.all_eq_true.mpr own,
      Text.lower_ascii ascii⟩
  cases given : address.scheme with
  | none =>
      rw [usedScheme, given]
      decide
  | some name =>
      rw [usedScheme, given, Option.getD_some]
      rcases address.web name given with http | https
      · obtain ⟨present, letters, lowered⟩ := spelled name _ http (by decide) (by decide)
        exact ⟨present, letters, .inl lowered⟩
      · obtain ⟨present, letters, lowered⟩ := spelled name _ https (by decide) (by decide)
        exact ⟨present, letters, .inr lowered⟩

/-- An address that starts with two slashes is read like one with the secure scheme. -/
theorem normalized_eq : normalized address.toText =
    address.usedScheme ++ ':' :: '/' :: '/' :: (address.authority ++ address.rest) := by
  obtain ⟨present, letters, -⟩ := address.scheme_letters
  have joined (name rest : Text) : name ++ ("://" : Text) ++ rest = name ++ ':' :: '/' :: '/' :: rest := by
    rw [List.append_assoc]
    rfl
  unfold toText usedScheme at *
  cases given : address.scheme with
  | none => exact joined "https" _
  | some name =>
      rw [given, Option.getD_some] at present letters
      have other (rest : Text) : name ++ ':' :: '/' :: '/' :: (address.authority ++ address.rest) ≠
          '/' :: '/' :: rest := by
        obtain ⟨first, others, rfl⟩ := List.exists_cons_of_ne_nil present
        have letter := List.all_eq_true.mp letters first List.mem_cons_self
        rintro same
        rw [(List.cons.inj same).1] at letter
        exact absurd letter (by decide)
      simp only [joined, Option.getD_some]
      unfold normalized
      split
      · rename_i rest same
        exact absurd same (other rest)
      · rfl

theorem scheme_and_host : schemeAndHost (normalized address.toText) =
    .ok (Text.lower address.usedScheme, Text.lower address.host) := by
  obtain ⟨present, letters, -⟩ := address.scheme_letters
  have plain := address.authority_plain
  obtain ⟨first, others, same⟩ := List.exists_cons_of_ne_nil present
  have code {char : Char} (member : char ∈ address.usedScheme) : 32 < char.toNat := by
    have code := Text.ascii_letter_code (List.all_eq_true.mp letters char member)
    omega
  have visible : ∀ char ∈ others ++ ':' :: '/' :: '/' :: address.authority, 32 ≤ char.toNat := by
    simp only [List.forall_mem_append, List.forall_mem_cons]
    exact ⟨fun char member => (code (same ▸ List.mem_cons_of_mem first member)).le, by decide,
      by decide, by decide, fun char member => (plain char member).visible⟩
  obtain ⟨rest, cleans, apart⟩ :=
    cleaned_front (code (same ▸ List.mem_cons_self)) visible address.restApart
  have cleansTo : cleaned (normalized address.toText) =
      address.usedScheme ++ ':' :: '/' :: '/' :: (address.authority ++ rest) := by
    simpa [normalized_eq, same] using cleans
  unfold schemeAndHost
  rw [cleansTo, split_scheme_named present letters]
  simp only [authority_taken plain apart, check_authority_plain plain, host_of_authority]
  rfl

theorem is_external_eq (siteDomain : Option Text) : isExternal address.toText siteDomain =
    pure (leadsAway (Text.lower address.usedScheme) (Text.lower address.host) siteDomain) := by
  rw [isExternal, scheme_and_host]

theorem leads_away_eq (host : Text) (siteDomain : Option Text) :
    leadsAway (Text.lower address.usedScheme) host siteDomain =
      match siteDomain.filter fun domain => !domain.isEmpty with
      | none => true
      | some domain => !isWithin host (bareDomain domain) := by
  obtain ⟨-, -, web⟩ := address.scheme_letters
  rw [leadsAway, if_pos]
  · rfl
  · rwa [Bool.or_eq_true, decide_eq_true_eq, decide_eq_true_eq]

/-- Without a domain every web address leads away from the site. With one, an address leads away unless
the labels of the domain are the last labels of its host, in whatever case both are written. No other part
of the address counts. -/
theorem external_unless_labels_end (address : WebAddress) :
    isExternal address.toText none = pure true ∧
    isExternal address.toText (some []) = pure true ∧
    ∀ domain, domain ≠ [] → ∃ external,
      isExternal address.toText (some domain) = pure external ∧
        (external = false ↔ labels (bareDomain domain) <:+ labels (Text.lower address.host)) := by
  simp only [is_external_eq, leads_away_eq]
  refine ⟨rfl, rfl, ?_⟩
  intro domain present
  refine ⟨_, rfl, ?_⟩
  have given : (some domain).filter (fun domain : Text => !domain.isEmpty) = some domain := by
    simp [present]
  rw [given, Bool.not_eq_false', is_within_iff]

/-- An address inside of a site, in other letter case. -/
example : (isExternal "//me@Docs.SITE.org:80?q" (some ".Site.Org")).value = false := by decide +kernel

/-- A site's name as the user, in the path and as the end of a longer label. -/
def disguisedAddress : WebAddress where
  scheme := some "HtTp"
  user := some "docs.site.org:80"
  host := "Evil-Site.ORG"
  port := some "8080"
  rest := "/docs.site.org?to=//site.org#@site.org"
  web := by decide
  userChars := by decide
  hostPresent := by decide
  hostChars := by decide
  portDigits := by decide
  restApart := by
    rintro first ⟨rfl⟩
    decide

theorem disguised_address_external : ("..Site.org" : Text) ≠ [] ∧
    isExternal "HtTp://docs.site.org:80@Evil-Site.ORG:8080/docs.site.org?to=//site.org#@site.org"
      (some "..Site.org") = pure true := by
  have present : ("..Site.org" : Text) ≠ [] := by decide
  have apart : ¬labels (bareDomain "..Site.org") <:+ labels (Text.lower disguisedAddress.host) := by
    decide
  obtain ⟨external, same, within⟩ :=
    (external_unless_labels_end disguisedAddress).2.2 "..Site.org" present
  have away : external = true := by simpa using mt within.mp apart
  subst away
  exact ⟨present, same⟩

end WebAddress

end RichText
