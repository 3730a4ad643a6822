import Reconcile.Http.Exchange
import Reconcile.Proofs.Text.Utf8

namespace Reconcile.Http

open Text.Utf8

variable {limit : Nat} {beginning body other : List Char}

/-- The longest piece of whole characters at the start of a body within a number of bytes. -/
structure LongestWithin (limit : Nat) (beginning body : List Char) : Prop where
  begins : beginning <+: body
  fits : (encode beginning).length ≤ limit
  longest : ∀ other, other <+: body → (encode other).length ≤ limit → other <+: beginning

namespace LongestWithin

theorem begins_iff (h : LongestWithin limit beginning body) :
    other <+: beginning ↔ encode other <+: (encode body).take limit := by
  rw [List.prefix_take_iff, encode_prefix_iff]
  constructor
  · intro hother
    refine ⟨hother.trans h.begins, Nat.le_trans ?_ h.fits⟩
    exact (encode_prefix_iff.2 hother).length_le
  · rintro ⟨hbegins, hfits⟩
    exact h.longest other hbegins hfits

theorem eq_of_take_eq {beginning' body' : List Char} (h : LongestWithin limit beginning body)
    (h' : LongestWithin limit beginning' body')
    (htake : (encode body).take limit = (encode body').take limit) : beginning = beginning' := by
  have hbegins : ∀ other, other <+: beginning ↔ other <+: beginning' := by
    intro other
    rw [h.begins_iff, h'.begins_iff, htake]
  have hle := (hbegins beginning).1 (List.prefix_refl _)
  have hge := (hbegins beginning').2 (List.prefix_refl _)
  exact hle.eq_of_length_le hge.length_le

theorem limit_lt (h : LongestWithin limit beginning body) (hlong : limit < (encode body).length) :
    limit < (encode beginning).length + 4 := by
  obtain ⟨rest, rfl⟩ := h.begins
  cases rest with
  | nil =>
      rw [List.append_nil] at hlong
      exact absurd h.fits (Nat.not_le.2 hlong)
  | cons c rest =>
      rw [← Nat.not_le]
      intro hroom
      have hmore : beginning ++ [c] <+: beginning := by
        refine h.longest _ ⟨rest, by simp⟩ ?_
        have hc := c.utf8Size_le_four
        rw [length_encode] at hroom
        rw [length_encode, size_append, size, size]
        omega
      exact absurd hmore.length_le (by simp)

end LongestWithin

theorem longestWithin_of_lastBoundary {place : Nat} (hbegins : beginning <+: body)
    (hsize : size beginning = place) (hle : place ≤ limit)
    (hlast : ∀ other, place < other → other ≤ limit → isBoundary (encode body) other = false) :
    LongestWithin limit beginning body := by
  refine ⟨hbegins, by rwa [length_encode, hsize], ?_⟩
  intro other hother hfits
  rw [length_encode] at hfits
  have hboundary : isBoundary (encode body) (size other) = true := by
    rw [← isSome_upTo?, upTo?_eq_some_iff.2 ⟨hother, rfl⟩, Option.isSome_some]
  have hshort : (encode other).length ≤ (encode beginning).length := by
    rw [length_encode, length_encode, hsize, ← Nat.not_lt]
    intro hlt
    rw [hlast _ hlt hfits] at hboundary
    cases hboundary
  exact prefix_of_encode (List.prefix_of_prefix_length_le (encode_prefix_iff.2 hother)
    (encode_prefix_iff.2 hbegins) hshort)

def printable (text : List Char) : List Char := text.filter fun c => ' ' ≤ c ∧ c ≤ '~'

theorem filter_isShown (text : List Char) : text.filter isShown = printable text := by
  have hshown : ∀ c : Char, isShown c = decide (' ' ≤ c ∧ c ≤ '~') := by
    intro c
    rw [Bool.eq_iff_iff, isShown, Bool.and_eq_true]
    simp only [decide_eq_true_eq]
    exact Iff.rfl
  rw [printable, funext hshown]

theorem mem_printable {c : Char} {text : List Char} :
    c ∈ printable text ↔ c ∈ text ∧ ' ' ≤ c ∧ c ≤ '~' := by
  rw [printable, List.mem_filter, decide_eq_true_iff]

theorem printable_append (s t : List Char) : printable (s ++ t) = printable s ++ printable t :=
  List.filter_append s t

theorem printable_digits (n : Nat) : printable (toString n).toList = (toString n).toList := by
  rw [printable, List.filter_eq_self]
  intro c hc
  have hdigit : c.isDigit = true := by
    refine Nat.isDigit_of_mem_toDigits (b := 10) (n := n) (by omega) (by omega) ?_
    rwa [← Nat.toList_repr]
  rw [Char.isDigit_iff_toNat] at hdigit
  rw [decide_eq_true_iff]
  exact ⟨Nat.le_trans (by decide) hdigit.1, Nat.le_trans hdigit.2 (by decide)⟩

theorem printable_truncationNote (n : Nat) : printable (truncationNote n) = truncationNote n := by
  have hopening : printable "... [truncated, ".toList = "... [truncated, ".toList := by
    decide +kernel
  have hclosing : printable " bytes total]".toList = " bytes total]".toList := by
    decide +kernel
  unfold truncationNote
  rw [printable_append, printable_append, printable_digits, hopening, hclosing]

theorem ofList_truncationNote (n : Nat) : String.ofList (truncationNote n) =
    "... [truncated, " ++ toString n ++ " bytes total]" := by
  unfold truncationNote
  simp only [String.ofList_append, String.ofList_toList]

theorem logText_of_abridged? {text : List Char} (h : abridged? body = some text) :
    logText body = String.ofList (printable text) := by
  rw [logText, logChars, filter_isShown]
  simp only [h, Option.get_some]

theorem abridged?_of_short (h : size body ≤ logLimit) : abridged? body = some body := by
  rw [abridged?, if_neg (Nat.not_lt.2 h)]
  rfl

theorem abridged?_of_long (h : logLimit < size body) : ∃ place beginning,
    lastBoundary? (encode body) logLimit = some place ∧ upTo? place body = some beginning ∧
      LongestWithin logLimit beginning body ∧
      abridged? body = some (beginning ++ truncationNote (size body)) := by
  obtain ⟨place, hfound, hboundary, hle, hlast⟩ := lastBoundary?_law (encode body) logLimit
  rw [← isSome_upTo?] at hboundary
  obtain ⟨beginning, hbeginning⟩ := Option.isSome_iff_exists.1 hboundary
  obtain ⟨hbegins, hsize⟩ := upTo?_eq_some_iff.1 hbeginning
  refine ⟨place, beginning, hfound, hbeginning,
    longestWithin_of_lastBoundary hbegins hsize hle hlast, ?_⟩
  rw [abridged?, if_pos h, hfound]
  simp [hbeginning]

theorem logText_congr (hlong : logLimit < size body) (hsize : size other = size body)
    (htake : (encode other).take logLimit = (encode body).take logLimit) :
    logText other = logText body := by
  obtain ⟨-, beginning, -, -, hlongest, habridged⟩ := abridged?_of_long hlong
  obtain ⟨-, beginning', -, -, hlongest', habridged'⟩ := abridged?_of_long (hsize ▸ hlong)
  rw [logText_of_abridged? habridged, logText_of_abridged? habridged', hsize,
    hlongest'.eq_of_take_eq hlongest htake]

theorem outcomeLog_congr {r r' : Response} (url : String) (hwhole : r'.isWhole = r.isWhole)
    (hstatus : r'.status = r.status) (hlong : logLimit < size (decodeLossy r.body))
    (hsize : size (decodeLossy r'.body) = size (decodeLossy r.body))
    (htake : (encode (decodeLossy r'.body)).take logLimit =
      (encode (decodeLossy r.body)).take logLimit) :
    outcomeLog url r' = outcomeLog url r := by
  unfold outcomeLog
  rw [hwhole, hstatus, logText_congr hlong hsize htake]

/-- Every body has its text in the log, of printable ASCII only. A body of at most 200 bytes is
shown by its printable characters. A longer one is cut at the last boundary within 200 bytes, at
most three bytes before their end, and shown by the printable characters of the whole characters
before it and a note of its size, so nothing of the bytes after the first 200 shows but how many
they are. -/
theorem log_text_law (body : List Char) :
    (∃ text, abridged? body = some text ∧ logText body = String.ofList (printable text)) ∧
    (∀ c ∈ (logText body).toList, ' ' ≤ c ∧ c ≤ '~') ∧
    ((encode body).length ≤ 200 → logText body = String.ofList (printable body)) ∧
    (200 < (encode body).length →
      (∃ place beginning, lastBoundary? (encode body) 200 = some place ∧ 197 ≤ place ∧
        place ≤ 200 ∧ upTo? place body = some beginning ∧ LongestWithin 200 beginning body ∧
        logText body = String.ofList (printable beginning) ++
          ("... [truncated, " ++ toString (encode body).length ++ " bytes total]")) ∧
      ∀ other, (encode other).length = (encode body).length →
        (encode other).take 200 = (encode body).take 200 → logText other = logText body) := by
  obtain ⟨text, htext⟩ := Option.isSome_iff_exists.1 (isSome_abridged? body)
  refine ⟨⟨text, htext, logText_of_abridged? htext⟩, ?_, ?_, ?_⟩
  · intro c hc
    rw [logText_of_abridged? htext, String.toList_ofList] at hc
    exact (mem_printable.1 hc).2
  · intro hshort
    rw [length_encode] at hshort
    exact logText_of_abridged? (abridged?_of_short hshort)
  · intro hlong
    have hlimit : logLimit < size body := by rwa [length_encode] at hlong
    constructor
    · obtain ⟨place, beginning, hfound, hbeginning, hlongest, habridged⟩ :=
        abridged?_of_long hlimit
      have hsize : (encode beginning).length = place := by
        rw [length_encode]
        exact (upTo?_eq_some_iff.1 hbeginning).2
      have hnear : 200 < place + 4 := hsize ▸ hlongest.limit_lt hlong
      have hfits : place ≤ 200 := hsize ▸ hlongest.fits
      refine ⟨place, beginning, hfound, by omega, hfits, hbeginning, hlongest, ?_⟩
      rw [logText_of_abridged? habridged, printable_append, printable_truncationNote,
        String.ofList_append, ofList_truncationNote, length_encode]
    · intro other hlength htake
      rw [length_encode, length_encode] at hlength
      exact logText_congr hlimit hlength htake

namespace Straddling

def page (c : Char) : List Char := List.replicate 199 'x' ++ c :: " token".toList

theorem pages_logged_alike :
    200 < (encode (page 'é')).length ∧
    (encode (page 'ê')).length = (encode (page 'é')).length ∧
    (encode (page 'ê')).take 200 = (encode (page 'é')).take 200 ∧
    logText (page 'é') =
      String.ofList (List.replicate 199 'x') ++ "... [truncated, 207 bytes total]" ∧
    logText (page 'ê') = logText (page 'é') := by
  have hsize : (encode (page 'é')).length = 207 := by decide +kernel
  have hlong : 200 < (encode (page 'é')).length := by omega
  have hlength : (encode (page 'ê')).length = (encode (page 'é')).length := by decide +kernel
  have htake : (encode (page 'ê')).take 200 = (encode (page 'é')).take 200 := by decide +kernel
  obtain ⟨⟨place, beginning, hfound, -, -, hbeginning, -, htext⟩, hcongr⟩ :=
    (log_text_law (page 'é')).2.2.2 hlong
  have hplace : lastBoundary? (encode (page 'é')) 200 = some 199 := by decide +kernel
  obtain rfl : 199 = place := Option.some.inj (hplace.symm.trans hfound)
  have hcut : upTo? 199 (page 'é') = some (List.replicate 199 'x') := by decide +kernel
  obtain rfl : List.replicate 199 'x' = beginning := Option.some.inj (hcut.symm.trans hbeginning)
  have hshown : printable (List.replicate 199 'x') = List.replicate 199 'x' := by decide +kernel
  rw [hshown, hsize] at htext
  exact ⟨hlong, hlength, htake, htext, hcongr _ hlength htake⟩

end Straddling

end Reconcile.Http
