/-!
# Paths of names

A path is a text whose segments are separated by a double colon.  Reading from the left splits it
into segments; its simple name is what stands after the last separator.  The two readings of a
run of three colons differ, which is why the simple name is found from the right and not by
splitting.
-/

namespace FixtureFactory
namespace Text

/-- Splits at each double colon, from the left. -/
def splitSegments : List Char → List (List Char)
  | [] => [[]]
  | ':' :: ':' :: rest => [] :: splitSegments rest
  | c :: rest =>
      match splitSegments rest with
      | [] => [[c]]
      | segment :: segments => (c :: segment) :: segments

/-- Whether a double colon occurs. -/
def hasSeparator : List Char → Bool
  | ':' :: ':' :: _ => true
  | _ :: rest => hasSeparator rest
  | [] => false

/-- Whether a pattern occurs somewhere in a text. -/
def occursIn (pattern : List Char) : List Char → Bool
  | [] => pattern.isEmpty
  | c :: rest => pattern.isPrefixOf (c :: rest) || occursIn pattern rest

/-- What stands before the first double colon. -/
def beforeSeparator : List Char → List Char
  | ':' :: ':' :: _ => []
  | c :: rest => c :: beforeSeparator rest
  | [] => []

/-- What stands after the last double colon. -/
def lastSegment (cs : List Char) : List Char :=
  (beforeSeparator cs.reverse).reverse

end Text

/-- Whether a text starts with another. -/
def startsWith (opening text : String) : Bool := opening.toList.isPrefixOf text.toList

/-- Whether a text contains another. -/
def containsText (part text : String) : Bool := Text.occursIn part.toList text.toList

/-- The segments of a path text. -/
def pathSegments (text : String) : List String :=
  (Text.splitSegments text.toList).map String.ofList

/-- The path text of a list of segments. -/
def joinPath (segments : List String) : String :=
  "::".intercalate segments

/-- Whether a path text has more than one segment. -/
def isQualified (path : String) : Bool :=
  Text.hasSeparator path.toList

/-- The segment after the last separator. -/
def simpleName (path : String) : String :=
  String.ofList (Text.lastSegment path.toList)

/-- The path before the last separator and the segment after it. -/
def splitLast? (path : String) : Option (String × String) :=
  if isQualified path then
    let name := Text.lastSegment path.toList
    some (String.ofList (path.toList.take (path.toList.length - name.length - 2)),
      String.ofList name)
  else none

end FixtureFactory
