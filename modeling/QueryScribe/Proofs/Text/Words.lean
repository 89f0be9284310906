import QueryScribe.Proofs.Text.Chars
import QueryScribe.Text.Words

/-!
# Words of small letters

A name that has nothing but small ASCII letters and underscores is cut into words at its underscores
and nowhere else. Each of its characters is a cluster of its own, and from one to the next nothing
changes that would end a word. Such a word is the same when it is lowered, and one with its first
letter in capitals gives itself back.

Results:
1. `clusters_plain`: the clusters of such a name.
2. `words_joined`: its words.
3. `lowerChars_letters`, `capitalizeWord_letters`: small letters and capitals.
-/

namespace QueryScribe.Text

/-- Whether a text has nothing but small ASCII letters. -/
def IsLettered (cs : List Char) : Prop :=
  ∀ c ∈ cs, isAsciiLower c = true

instance : DecidablePred IsLettered := fun cs => List.decidableBAll _ cs

theorem isLettered_cons {c : Char} {cs : List Char} :
    IsLettered (c :: cs) ↔ isAsciiLower c = true ∧ IsLettered cs :=
  List.forall_mem_cons

/-- The words with underscores in between. -/
def joined (first : List Char) (others : List (List Char)) : List Char :=
  first ++ others.flatMap ('_' :: ·)

namespace WordsLemmas

theorem toNat_lt_of_letter {c : Char} (letter : isAsciiLower c = true) : c.toNat < 128 := by
  rw [isAsciiLower, Bool.and_eq_true, decide_eq_true_eq, decide_eq_true_eq] at letter
  have last : c.toNat ≤ 'z'.toNat := letter.2
  exact Nat.lt_of_le_of_lt last (by decide)

/-- What holds of all small ASCII letters, as they are few enough to be tried. -/
theorem forall_letter (p : Char → Prop) [DecidablePred p]
    (all : ∀ code < 128, isAsciiLower (Char.ofNat code) = true → p (Char.ofNat code)) {c : Char}
    (letter : isAsciiLower c = true) : p c :=
  CaseLemmas.forall_ascii (fun c => isAsciiLower c = true → p c) all (toNat_lt_of_letter letter)
    letter

/-- Whether a character is a small ASCII letter or an underscore. -/
def isPlain (c : Char) : Bool :=
  isAsciiLower c || c = '_'

theorem toNat_lt_of_plain {c : Char} (plain : isPlain c = true) : c.toNat < 128 := by
  rw [isPlain, Bool.or_eq_true, decide_eq_true_eq] at plain
  rcases plain with letter | rfl
  · exact toNat_lt_of_letter letter
  · decide

/-! ## 1. Clusters -/

theorem has_eq_false {set : CharSet} (beyond : ∀ span ∈ set.spans, 128 ≤ span.1) {c : Char}
    (ascii : c.toNat < 128) : set.has c = false := by
  rw [← Bool.not_eq_true, CharSet.has_iff]
  rintro ⟨span, listed, first, _⟩
  have := beyond span listed
  omega

theorem attached_plain {c d : Char} (plain : isPlain c = true) (plain' : isPlain d = true) :
    attached c d = false := by
  have prepends : prepending.has c = false :=
    has_eq_false (by decide +kernel) (toNat_lt_of_plain plain)
  have extends' : extending.has d = false :=
    has_eq_false (by decide +kernel) (toNat_lt_of_plain plain')
  rw [attached, prepends, extends', Bool.or_false]

/-- Where nothing is attached, every character is a cluster. -/
theorem clusters_plain {cs : List Char} (plain : ∀ c ∈ cs, isPlain c = true) :
    clusters cs = cs.map ([·]) := by
  induction cs with
  | nil => rfl
  | cons c cs ih =>
    have rest := ih fun d mem => plain d (List.mem_cons_of_mem _ mem)
    cases cs with
    | nil => rfl
    | cons d cs =>
      have apart := attached_plain (plain c List.mem_cons_self)
        (plain d (List.mem_cons_of_mem _ List.mem_cons_self))
      rw [clusters, rest, List.head?_cons, List.map_cons, Cluster.attach, apart]
      rfl

/-! ## 2. Words -/

theorem plain_cluster {c : Char} (plain : isPlain c = true) :
    Cluster.isUpper [c] = false ∧ Cluster.isDigit [c] = false
      ∧ Cluster.isSeparator [c] = decide (c = '_') := by
  rw [isPlain, Bool.or_eq_true, decide_eq_true_eq] at plain
  rcases plain with letter | rfl
  · exact forall_letter (fun c => Cluster.isUpper [c] = false ∧ Cluster.isDigit [c] = false
      ∧ Cluster.isSeparator [c] = decide (c = '_')) (by decide +kernel) letter
  · decide +kernel

/-- No word ends without an underscore. -/
theorem endsWord_plain {c : Char} (plain : isPlain c = true) {cs : List Char}
    (others : ∀ d ∈ cs, isPlain d = true) : Cluster.endsWord [c] (cs.map ([·])) = false := by
  obtain ⟨upper, digit, _⟩ := plain_cluster plain
  cases cs with
  | nil => rfl
  | cons d cs =>
    obtain ⟨upper', digit', _⟩ := plain_cluster (others d List.mem_cons_self)
    simp [Cluster.endsWord, upper, digit, upper', digit']

theorem words_cons {c : Char} {cs : List Char} (plain : ∀ d ∈ c :: cs, isPlain d = true) :
    words (c :: cs) = if c = '_' then ([], (words cs).1 :: (words cs).2)
      else (c :: (words cs).1, (words cs).2) := by
  have rest : ∀ d ∈ cs, isPlain d = true := fun d mem => plain d (List.mem_cons_of_mem _ mem)
  have here := plain c List.mem_cons_self
  rw [words, words, clusters_plain plain, clusters_plain rest, List.map_cons, wordsOfClusters,
    endsWord_plain here rest, (plain_cluster here).2.2]
  simp

/-- Letters in front belong to the first word. -/
theorem words_letters {word cs : List Char} (lettered : IsLettered word)
    (plain : ∀ c ∈ cs, isPlain c = true) :
    words (word ++ cs) = (word ++ (words cs).1, (words cs).2) := by
  induction word with
  | nil => rfl
  | cons c word ih =>
    obtain ⟨letter, rest⟩ := isLettered_cons.mp lettered
    have all : ∀ d ∈ c :: (word ++ cs), isPlain d = true := by
      intro d mem
      rw [← List.cons_append, List.mem_append] at mem
      rcases mem with mem | mem
      · simp [isPlain, lettered d mem]
      · exact plain d mem
    have noSeparator := forall_letter (· ≠ '_') (by decide +kernel) letter
    rw [List.cons_append, words_cons all, if_neg noSeparator, ih rest, List.cons_append]

theorem plain_joined {others : List (List Char)} (lettered : ∀ word ∈ others, IsLettered word) :
    ∀ c ∈ others.flatMap ('_' :: ·), isPlain c = true := by
  intro c mem
  obtain ⟨word, listed, mem⟩ := List.mem_flatMap.mp mem
  rcases List.mem_cons.mp mem with rfl | mem
  · rfl
  · simp [isPlain, lettered word listed c mem]

end WordsLemmas

open WordsLemmas

/-- A name of lettered words with underscores in between has just these words. -/
theorem words_joined {first : List Char} {others : List (List Char)}
    (lettered : ∀ word ∈ first :: others, IsLettered word) :
    words (joined first others) = (first, others) := by
  induction others generalizing first with
  | nil =>
    rw [joined, List.flatMap_nil, words_letters (lettered first List.mem_cons_self) (by simp)]
    simp [words, clusters, wordsOfClusters]
  | cons second others ih =>
    have later : ∀ word ∈ second :: others, IsLettered word :=
      fun word mem => lettered word (List.mem_cons_of_mem _ mem)
    have rest : (second :: others).flatMap ('_' :: ·) = '_' :: joined second others := rfl
    have plain := plain_joined later
    rw [joined, words_letters (lettered first List.mem_cons_self) plain]
    rw [rest] at plain ⊢
    rw [words_cons plain, if_pos rfl, ih later, List.append_nil]

/-! ## 3. Small letters and capitals -/

theorem lowerChars_letters {word : List Char} (lettered : IsLettered word) :
    lowerChars word = word := by
  have all (before : List Char) : lowerAfter before word = word := by
    induction word generalizing before with
    | nil => rfl
    | cons c word ih =>
      obtain ⟨letter, rest⟩ := isLettered_cons.mp lettered
      have small := forall_letter (fun c => c ≠ 'Σ' ∧ lowerChar c = [c]) (by decide +kernel) letter
      rw [lowerAfter, ih rest]
      simp [small]
  exact all []

/-- Of a lettered word, the first letter becomes a capital. -/
theorem capitalizeWord_letters {c : Char} {cs : List Char} (lettered : IsLettered (c :: cs)) :
    capitalizeWord (c :: cs) = asciiUpper c :: cs := by
  obtain ⟨letter, rest⟩ := isLettered_cons.mp lettered
  have capital := forall_letter (fun c => upperChar c = [asciiUpper c]) (by decide +kernel) letter
  rw [capitalizeWord, capital, lowerChars_letters rest, List.singleton_append]

end QueryScribe.Text
