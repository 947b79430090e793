import CatalogSql.Text.Cluster
import CatalogSql.Text.LetterCase

/-!
# Words of a name

A name is cut into words at its delimiters, where a small letter meets a capital one,
where a digit meets a letter, and before the last capital letter of a run that a small
letter follows. Words are joined again in one of three spellings. Empty words count:
delimiters at the ends and next to each other are kept.
-/

namespace CatalogSql.Text

/-- A word as its clusters. -/
abbrev Word := List Cluster

/-- Whether a cluster is a decimal digit. -/
def isDigitCluster : Cluster → Bool
  | [character] => '0' ≤ character && character ≤ '9'
  | _ => false

/-- Whether a cluster stands between words and belongs to none. -/
def isDelimiter : Cluster → Bool
  | [character] => character == '_' || character == '-' || character == ' '
  | _ => false

/-- Whether a word ends between two clusters, the second one followed by `third?`. -/
def endsWord (first second : Cluster) (third? : Option Cluster) : Bool :=
  (isLower first && isUpper second) ||
  (isUpper first && isDigitCluster second) || (isDigitCluster first && isUpper second) ||
  (isDigitCluster first && isLower second) || (isLower first && isDigitCluster second) ||
  (isUpper first && isUpper second && third?.any isLower)

/-- Whether a word ends after a cluster that others follow. -/
def endsWordAfter (cluster : Cluster) : List Cluster → Bool
  | [] => false
  | second :: rest => endsWord cluster second rest.head?

/-- Adds a cluster to the first of some words. -/
def extendFirst (cluster : Cluster) : List Word → List Word
  | [] => [[cluster]]
  | word :: words => (cluster :: word) :: words

/-- The words that clusters form. -/
def cutWords : List Cluster → List Word
  | [] => [[]]
  | cluster :: rest =>
      if isDelimiter cluster then [] :: cutWords rest
      else if endsWordAfter cluster rest then [cluster] :: cutWords rest
      else extendFirst cluster (cutWords rest)

/-- The words of a name. -/
def words (name : String) : List Word := cutWords (Cluster.split name.toList)

/-- Words in capital letters with underscores between them. -/
def capitals (name : String) : List Char :=
  List.intercalate ['_'] ((words name).map fun word => upper word.flatten)

/-- Words in small letters with underscores between them. -/
def snake (name : String) : List Char :=
  List.intercalate ['_'] ((words name).map fun word => lower word.flatten)

/-- A word with a capital first letter. -/
def capitalized : Word → List Char
  | [] => []
  | first :: rest => upper first ++ lower rest.flatten

/-- Words with capital first letters and nothing between them. -/
def pascal (name : String) : List Char := (words name).flatMap capitalized

end CatalogSql.Text
