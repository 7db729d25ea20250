import SurfaceDrift.Fields
import SurfaceDrift.Text.Casing

/-!
# Stop words

Words that say nothing about a text and are not counted as terms. `StopWords.ofWords` reads
a choice : the English list, no words at all, or words of one's own in lowercase.
-/

namespace SurfaceDrift

/-- Common English words, in order. -/
def englishStopWords : List String := [
  "a", "about", "above", "across", "after", "afterwards", "again", "against", "all", "almost",
  "alone", "along", "already", "also", "although", "always", "am", "among", "amongst",
  "amoungst", "amount", "an", "and", "another", "any", "anyhow", "anyone", "anything", "anyway",
  "anywhere", "are", "around", "as", "at", "back", "be", "became", "because", "become",
  "becomes", "becoming", "been", "before", "beforehand", "behind", "being", "below", "beside",
  "besides", "between", "beyond", "bill", "both", "bottom", "but", "by", "call", "can", "cannot",
  "cant", "co", "con", "could", "couldnt", "cry", "de", "describe", "detail", "do", "done",
  "down", "due", "during", "each", "eg", "eight", "either", "eleven", "else", "elsewhere",
  "empty", "enough", "etc", "even", "ever", "every", "everyone", "everything", "everywhere",
  "except", "few", "fifteen", "fifty", "fill", "find", "fire", "first", "five", "for", "former",
  "formerly", "forty", "found", "four", "from", "front", "full", "further", "get", "give", "go",
  "had", "has", "hasnt", "have", "he", "hence", "her", "here", "hereafter", "hereby", "herein",
  "hereupon", "hers", "herself", "him", "himself", "his", "how", "however", "hundred", "i", "ie",
  "if", "in", "inc", "indeed", "interest", "into", "is", "it", "its", "itself", "keep", "last",
  "latter", "latterly", "least", "less", "ltd", "made", "many", "may", "me", "meanwhile",
  "might", "mill", "mine", "more", "moreover", "most", "mostly", "move", "much", "must", "my",
  "myself", "name", "namely", "neither", "never", "nevertheless", "next", "nine", "no", "nobody",
  "none", "noone", "nor", "not", "nothing", "now", "nowhere", "of", "off", "often", "on", "once",
  "one", "only", "onto", "or", "other", "others", "otherwise", "our", "ours", "ourselves", "out",
  "over", "own", "part", "per", "perhaps", "please", "put", "rather", "re", "same", "see",
  "seem", "seemed", "seeming", "seems", "serious", "several", "she", "should", "show", "side",
  "since", "sincere", "six", "sixty", "so", "some", "somehow", "someone", "something",
  "sometime", "sometimes", "somewhere", "still", "such", "system", "take", "ten", "than", "that",
  "the", "their", "them", "themselves", "then", "thence", "there", "thereafter", "thereby",
  "therefore", "therein", "thereupon", "these", "they", "thick", "thin", "third", "this",
  "those", "though", "three", "through", "throughout", "thru", "thus", "to", "together", "too",
  "top", "toward", "towards", "twelve", "twenty", "two", "un", "under", "until", "up", "upon",
  "us", "very", "via", "was", "we", "well", "were", "what", "whatever", "when", "whence",
  "whenever", "where", "whereafter", "whereas", "whereby", "wherein", "whereupon", "wherever",
  "whether", "which", "while", "whither", "who", "whoever", "whole", "whom", "whose", "why",
  "will", "with", "within", "without", "would", "yet", "you", "your", "yours", "yourself",
  "yourselves"]

/-- Which words are left out. -/
inductive StopWords where
  | english
  | none
  | custom (words : List String)
deriving DecidableEq, Repr

namespace StopWords

/-- The words in order, each of them once. -/
def sorted (words : List String) : List String :=
  Fields.names (Fields.ofList (words.map fun word => (word, ())))

/-- The choice that words spell : the single word `english` or `none`, in any case of the
letters A to Z, or the words to leave out. -/
def ofWords : List String → StopWords
  | [] => none
  | [single] =>
    if Text.lowerAscii single = "english" then english
    else if Text.lowerAscii single = "none" then none
    else custom [Text.lower single]
  | words => custom (sorted (words.map Text.lower))

/-- Whether a word is left out. -/
def contains (stopWords : StopWords) (word : String) : Bool :=
  match stopWords with
  | english => englishStopWords.contains word
  | none => false
  | custom words => words.contains word

end StopWords

end SurfaceDrift
