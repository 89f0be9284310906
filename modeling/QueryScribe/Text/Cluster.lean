import QueryScribe.Text.Cluster.Marks

/-!
# Clusters: characters as a reader counts them

A cluster is what a reader takes for one character: signs written in front, one base character, and
the marks that follow it. Syllables and conjuncts spelled with several base characters are left
apart, since clusters serve only to look for letters with case, digits and separators.
-/

namespace QueryScribe.Text

/-- A base character with everything attached to it, in text order. -/
abbrev Cluster := List Char

/-- Whether no cluster ends between two neighbouring characters. -/
def attached (c d : Char) : Bool :=
  prepending.has c || extending.has d

/-- Puts a character in front of the clusters of the text after it, whose first character is
`next`. -/
def Cluster.attach (c : Char) (next : Option Char) (clusters : List Cluster) : List Cluster :=
  match next, clusters with
  | some d, cluster :: rest => if attached c d then (c :: cluster) :: rest else [c] :: cluster :: rest
  | _, clusters => [c] :: clusters

/-- The clusters of a text, in order. -/
def clusters : List Char → List Cluster
  | [] => []
  | c :: cs => Cluster.attach c cs.head? (clusters cs)

/-- Clustering loses no character. -/
theorem flatten_clusters (cs : List Char) : (clusters cs).flatten = cs := by
  induction cs with
  | nil => rfl
  | cons c cs ih =>
    have step : (Cluster.attach c cs.head? (clusters cs)).flatten = c :: (clusters cs).flatten := by
      unfold Cluster.attach
      split
      · split <;> simp_all
      · simp
    simp [clusters, step, ih]

end QueryScribe.Text
