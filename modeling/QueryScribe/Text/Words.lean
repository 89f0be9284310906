import QueryScribe.Text.Case
import QueryScribe.Text.Cluster
import QueryScribe.Text.Digit

/-!
# The words of a name

A name is cut into words at underscores, hyphens and spaces, which are dropped, and between two
clusters where the kind of character changes: a small letter before a capital, a letter next to a
digit, and the last capital of a run when a small letter follows it. Two separators in a row have an
empty word between them.
-/

namespace QueryScribe.Text

namespace Cluster

/-- Whether the cluster has case and is written in capitals. -/
def isUpper (cluster : Cluster) : Bool :=
  upperChars cluster != lowerChars cluster && cluster == upperChars cluster

/-- Whether the cluster has case and is written small. -/
def isLower (cluster : Cluster) : Bool :=
  upperChars cluster != lowerChars cluster && cluster == lowerChars cluster

/-- Whether the cluster is one of the digits `0` to `9`. -/
def isDigit : Cluster → Bool
  | [c] => Text.isDigit c
  | _ => false

/-- Whether the cluster separates words and belongs to none. -/
def isSeparator (cluster : Cluster) : Bool :=
  cluster == ['_'] || cluster == ['-'] || cluster == [' ']

/-- Whether a word ends with the cluster when `following` comes after it. -/
def endsWord (cluster : Cluster) (following : List Cluster) : Bool :=
  match following with
  | [] => false
  | next :: later =>
    cluster.isLower && (next.isUpper || next.isDigit)
      || cluster.isUpper && next.isDigit
      || cluster.isDigit && (next.isLower || next.isUpper)
      || cluster.isUpper && next.isUpper && (later.head?.any isLower)

end Cluster

/-- The first word and the words after it, of a name given by its clusters. -/
def wordsOfClusters : List Cluster → List Char × List (List Char)
  | [] => ([], [])
  | cluster :: rest =>
    let (word, words) := wordsOfClusters rest
    if cluster.isSeparator then ([], word :: words)
    else if cluster.endsWord rest then (cluster, word :: words)
    else (cluster ++ word, words)

/-- The first word of a name and the words after it. The empty name is one empty word. -/
def words (name : List Char) : List Char × List (List Char) :=
  wordsOfClusters (clusters name)

/-- The word with its first character in capitals and the others small. -/
def capitalizeWord : List Char → List Char
  | [] => []
  | c :: cs => upperChar c ++ lowerChars cs

end QueryScribe.Text
