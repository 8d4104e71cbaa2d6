import CallingConvention.Settings
import CallingConvention.Toml.Reader

/-!
# The policy of a text

A text names a policy if its blanks at both ends enclose the name of the policy, up to the case of
ASCII letters (`Policy.NamedBy`). The text is read by other means: it is trimmed and brought to
lower case by the rules of Unicode. So no character outside ASCII may have a letter of a policy's
name in its lower case. Two of them do have an ASCII letter there, but the Kelvin sign has the
letter `k`, which is in no name, and the lower case of the capital I with a dot goes on with the
dot.

Settings have the policy that their document names, until the environment names one. Then they have
that one, and everything else in them stays as it was. How a document is read does not matter. The
value of a variable is bytes, and only a text can be accepted or refused for a policy; bytes that
are no text count as no value.
-/

namespace CallingConvention

/-! ## Lower case -/

namespace Text

variable {c : Char} {cs ds w : List Char}

/-- Two words are equal up to the case of ASCII letters. -/
def EqualUpToCase (cs ds : List Char) : Prop := cs.map Char.toLower = ds.map Char.toLower

/-- A character that stands for no other in a lower case: it is in ASCII and not the letter `k`. -/
def IsPlain (c : Char) : Prop := c.toNat < 0x80 ∧ c ≠ 'k'

instance : DecidablePred IsPlain := fun c ↦ inferInstanceAs (Decidable (c.toNat < 0x80 ∧ c ≠ 'k'))

/-- A running text in lower case. Where a word ends, a capital sigma may be written as such. -/
inductive Lowers : List Char → List Char → Prop
  | nil : Lowers [] []
  | cons (c : Char) {cs ds : List Char} : Lowers cs ds → Lowers (c :: cs) (lowercase c ++ ds)
  | sigma {cs ds : List Char} : Lowers cs ds → Lowers ('Σ' :: cs) ('ς' :: ds)

theorem toNat_ofNat {n : Nat} (valid : n.isValidChar) : (Char.ofNat n).toNat = n := by
  rw [Char.ofNat, dif_pos valid]
  rfl

private theorem toLower_eq_self (h : ¬('A' ≤ c ∧ c ≤ 'Z')) : c.toLower = c := dif_neg h

/-- What becomes a plain word when its ASCII letters are put in lower case is in ASCII. -/
private theorem ascii_of_map_toLower (same : cs.map Char.toLower = w) (plain : ∀ d ∈ w, IsPlain d) :
    ∀ c ∈ cs, c.toNat < 0x80 := by
  intro c hc
  refine Nat.lt_of_not_le fun outside ↦ ?_
  have there : c.toLower ∈ w := same ▸ List.mem_map_of_mem hc
  rw [toLower_eq_self fun capital ↦ absurd (Nat.le_trans outside capital.2) (by decide)] at there
  exact absurd (plain c there).1 (by omega)

/-- The lower cases of all capitals are outside ASCII, apart from the one of the Kelvin sign. -/
theorem lower_capitals : ∀ r ∈ capitals,
    0x80 ≤ r.lower ∧ (r.lower + (r.last - r.first) < 0xd800 ∨
      0xdfff < r.lower ∧ r.lower + (r.last - r.first) < 0x110000) ∨
      r.first = r.last ∧ r.lower = 'k'.toNat := by
  decide +kernel

/-- A character in ASCII has its ASCII lower case; the lower case of any other holds a character
that is not plain. -/
theorem lowercase_cases (c : Char) :
    (c.toNat < 0x80 ∧ lowercase c = [c.toLower]) ∨
      (0x80 ≤ c.toNat ∧ ∃ d ∈ lowercase c, ¬IsPlain d) := by
  by_cases ascii : c.toNat < 0x80
  · exact .inl ⟨ascii, if_pos ascii⟩
  have outside : 0x80 ≤ c.toNat := Nat.le_of_not_lt ascii
  refine .inr ⟨outside, ?_⟩
  simp only [lowercase, if_neg ascii]
  split
  · exact ⟨Char.ofNat 0x307, by simp, by decide⟩
  split
  · next r found =>
    have range := List.find?_some found
    simp only [Capitals.contains, Bool.and_eq_true, decide_eq_true_eq] at range
    refine ⟨_, List.mem_singleton_self _, ?_⟩
    obtain ⟨low, valid⟩ | ⟨single, kelvin⟩ := lower_capitals r (List.mem_of_find?_eq_some found)
    · have valid : (r.lower + (c.toNat - r.first)).isValidChar := by
        simp only [Nat.isValidChar]
        omega
      simp only [IsPlain, toNat_ofNat valid]
      omega
    · have first : c.toNat - r.first = 0 := by omega
      rw [first, kelvin]
      decide
  · exact ⟨c, List.mem_singleton_self c, fun plain ↦ ascii plain.1⟩

theorem Lowers.isPlain (lowers : Lowers cs w) (plain : ∀ d ∈ w, IsPlain d) :
    w = cs.map Char.toLower := by
  induction lowers with
  | nil => rfl
  | cons c _ ih =>
    obtain ⟨-, one⟩ | ⟨-, d, there, strange⟩ := lowercase_cases c
    · rw [one] at plain ⊢
      rw [List.map_cons, ← ih fun d hd ↦ plain d (List.mem_append_right _ hd)]
      rfl
    · exact absurd (plain d (List.mem_append_left _ there)) strange
  | sigma _ _ => exact absurd (plain 'ς' List.mem_cons_self) (by decide)

private theorem exists_eq_trim (cs : List Char) : ∃ front back : List Char,
    cs = front ++ trim cs ++ back ∧ (∀ c ∈ front, isBlank c = true) ∧
      ∀ c ∈ back, isBlank c = true := by
  refine ⟨cs.takeWhile isBlank, ((cs.dropWhile isBlank).reverse.takeWhile isBlank).reverse, ?_, ?_,
    ?_⟩
  · rw [trim, List.append_assoc, ← List.reverse_append, List.takeWhile_append_dropWhile,
      List.reverse_reverse, List.takeWhile_append_dropWhile]
  · exact List.all_eq_true.mp List.all_takeWhile
  · exact fun c hc ↦ List.all_eq_true.mp List.all_takeWhile c (List.mem_reverse.mp hc)

private theorem dropWhile_isBlank_append {front word : List Char}
    (blank : ∀ c ∈ front, isBlank c = true) (dense : ∀ c ∈ word, isBlank c = false) (ne : word ≠ [])
    (rest : List Char) : (front ++ word ++ rest).dropWhile isBlank = word ++ rest := by
  obtain ⟨c, word, rfl⟩ := List.exists_cons_of_ne_nil ne
  rw [List.append_assoc, List.dropWhile_append_of_pos blank, List.cons_append,
    List.dropWhile_cons_of_neg (by simp [dense c])]

private theorem trim_append {front word back : List Char} (blank : ∀ c ∈ front, isBlank c = true)
    (blank' : ∀ c ∈ back, isBlank c = true) (dense : ∀ c ∈ word, isBlank c = false)
    (ne : word ≠ []) : trim (front ++ word ++ back) = word := by
  have reversed : (back.reverse ++ word.reverse ++ []).dropWhile isBlank = word.reverse ++ [] :=
    dropWhile_isBlank_append (by simpa using blank') (by simpa using dense) (by simpa using ne) []
  rw [trim, dropWhile_isBlank_append blank dense ne, List.reverse_append,
    ← List.append_nil (back.reverse ++ word.reverse), reversed, List.append_nil,
    List.reverse_reverse]

private theorem toLower_of_isBlank (blank : isBlank c = true) : c.toLower = c := by
  refine toLower_eq_self fun ⟨low, high⟩ ↦ ?_
  have low : 0x41 ≤ c.toNat := low
  have high : c.toNat ≤ 0x5a := high
  simp only [isBlank, Bool.or_eq_true, Bool.and_eq_true, decide_eq_true_eq, beq_iff_eq] at blank
  omega

end Text

/-! ## Names of policies -/

namespace Policy

variable {p q : Policy} {text : String}

/-- A text names a policy: blanks enclose a word that is its name, up to the case of ASCII letters.
-/
def NamedBy (p : Policy) (text : String) : Prop :=
  ∃ front word back : List Char, text.toList = front ++ word ++ back ∧
    (∀ c ∈ front, Text.isBlank c = true) ∧ (∀ c ∈ back, Text.isBlank c = true) ∧
      Text.EqualUpToCase word p.name.toList

private theorem isPlain_name (p : Policy) : ∀ c ∈ p.name.toList, Text.IsPlain c := by
  have plain : p.name.toList.all (fun c ↦ decide (Text.IsPlain c)) := by cases p <;> decide
  simpa using plain

private theorem toLower_name (p : Policy) : p.name.toList.map Char.toLower = p.name.toList := by
  cases p <;> decide

private theorem dense_name (p : Policy) : ∀ c ∈ p.name.toList, Text.isBlank c = false := by
  have dense : p.name.toList.any Text.isBlank = false := by cases p <;> decide
  simpa using dense

/-- A text names a policy if and only if its name is left after trimming, up to the case of ASCII
letters. -/
private theorem namedBy_iff : p.NamedBy text ↔
    Text.EqualUpToCase (Text.trim text.toList) p.name.toList := by
  constructor
  · rintro ⟨front, word, back, split, blank, blank', same⟩
    have lower : word.map Char.toLower = p.name.toList := same.trans p.toLower_name
    have dense : ∀ c ∈ word, Text.isBlank c = false := by
      intro c hc
      refine Bool.eq_false_iff.mpr fun isBlank ↦ ?_
      have there : c.toLower ∈ p.name.toList := lower ▸ List.mem_map_of_mem hc
      rw [Text.toLower_of_isBlank isBlank] at there
      exact Bool.eq_false_iff.mp (p.dense_name c there) isBlank
    have ne : word ≠ [] := by
      rintro rfl
      cases p <;> exact absurd lower (by decide)
    rwa [split, Text.trim_append blank blank' dense ne]
  · intro same
    obtain ⟨front, back, split, blank, blank'⟩ := Text.exists_eq_trim text.toList
    exact ⟨front, _, back, split, blank, blank', same⟩

theorem NamedBy.unique (named : p.NamedBy text) (named' : q.NamedBy text) : p = q := by
  have same : p.name.toList.map Char.toLower = q.name.toList.map Char.toLower :=
    (namedBy_iff.mp named).symm.trans (namedBy_iff.mp named')
  rw [toLower_name, toLower_name] at same
  cases p <;> cases q
  case strict.strict | convert.convert => rfl
  all_goals exact absurd same (by decide)

/-- Outside its blanks, a text that names a policy is in ASCII. -/
theorem NamedBy.ascii (named : p.NamedBy text) :
    ∀ c ∈ text.toList, Text.isBlank c = true ∨ c.toNat < 0x80 := by
  obtain ⟨front, word, back, split, blank, blank', same⟩ := named
  intro c hc
  simp only [split, List.mem_append] at hc
  obtain (hc | hc) | hc := hc
  · exact .inl (blank c hc)
  · exact .inr (Text.ascii_of_map_toLower (same.trans p.toLower_name) p.isPlain_name c hc)
  · exact .inl (blank' c hc)

example : ofText? "\u00a0CONvert\n" = some .convert := by decide +kernel

example : ofText? "strİct" = none := by decide +kernel

end Policy

/-! ## Policies of settings -/

namespace Settings

/-- Where settings come from: nowhere, a document or a file with the given bytes. -/
inductive Source where
  | nowhere
  | document (text : String)
  | file (bytes : Option ByteArray)

namespace Source

/-- The text of a source. -/
def text? : Source → Option String
  | nowhere => none
  | document text => some text
  | file bytes => bytes.bind String.fromUTF8?

/-- What a source has for the name of a policy. -/
def policyName? (read : String → Option Fields) (source : Source) : Option String := do
  (← read (← source.text?)).coercion

end Source

variable {read : String → Option Fields} {fields : Fields} {source : Source} {s s' : Settings}
  {p : Policy} {name text : String} {value : Option ByteArray}

end Settings

end CallingConvention
