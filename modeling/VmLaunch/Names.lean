/-!
# Names

The forms of an instance name and of a project id. Both hold lower-case letters,
digits and hyphens and begin with a letter; they differ in length and in where a
hyphen may end them.
-/

namespace VmLaunch

/-- Whether a character is an ASCII lower-case letter. -/
def isLowerLetter (c : Char) : Bool :=
  'a' ≤ c && c ≤ 'z'

/-- Whether a character may stand inside a name. -/
def isNameChar (c : Char) : Bool :=
  isLowerLetter c || ('0' ≤ c && c ≤ '9') || c == '-'

/-- Instance names have one to sixty-three characters and begin with a letter. A
hyphen may end a shorter name but not one of full length. -/
def isInstanceName (name : String) : Bool :=
  match name.toList with
  | [] => false
  | first :: rest =>
    rest.length ≤ 62 && isLowerLetter first && (first :: rest).all isNameChar &&
      !(rest.length == 62 && rest.getLast? == some '-')

/-- Project ids have six to thirty characters, begin with a letter and do not end
with a hyphen. -/
def isProjectId (project : String) : Bool :=
  match project.toList with
  | [] => false
  | first :: rest =>
    5 ≤ rest.length && rest.length ≤ 29 && isLowerLetter first && (first :: rest).all isNameChar &&
      !(rest.getLast? == some '-')

end VmLaunch
