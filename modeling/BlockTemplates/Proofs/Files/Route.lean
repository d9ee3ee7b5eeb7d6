import BlockTemplates.Proofs.Files.Leading

/-! Where paths lead, found by recursion on their pieces. Between two links the pieces become fewer, and
each link takes one away from the links that may still be followed; the way of a path in a file system
that is given can so be computed. Main statement: `locate_eq_route`. -/

namespace BlockTemplates

namespace FileSystem

section Route

variable (files : FileSystem) (follows : Bool)

/-- Where pieces lead as far as the next link that is followed, and what `follow` finds from there. -/
def stretch (follow : Place → List String → Except SystemError Target) :
    Place → List String → Except SystemError Target
  | place, [] => .ok (.present place)
  | place, piece :: rest =>
    match files.node? place with
    | some (.folder entries) =>
      if piece = "" ∨ piece = "." then stretch follow place rest
      else if piece = ".." then stretch follow place.dropLast rest
      else if maxName < piece.utf8ByteSize then .error .nameTooLong
      else
        match entries.lookup piece with
        | none =>
          if rest.all (· = "") then .ok (.absent place piece (!rest.isEmpty)) else .error .notFound
        | some (.link target) =>
          if rest.all (· = "") && !follows then .ok (.present (place ++ [piece]))
          else follow (if target.isAbsolute then [] else place) (target.pieces ++ rest)
        | some _ => stretch follow (place ++ [piece]) rest
    | _ => .error .notADirectory

/-- Where pieces lead from a link that is followed. -/
def onward : Nat → Place → List String → Except SystemError Target
  | 0, _, _ => .error .tooManyLinks
  | links + 1, place, pieces => stretch files follows (onward links) place pieces

def route (path : Path) : Except SystemError Target :=
  if path.text.isEmpty then .error .notFound
  else if path.text.toList.contains '\x00' then .error .invalidName
  else stretch files follows (onward files follows maxLinks) (if path.isAbsolute then [] else files.working) path.pieces

theorem locateFrom_eq_stretch (links : Nat) (place : Place) (pieces : List String) :
    files.locateFrom follows links place pieces = files.stretch follows (files.onward follows links) place pieces := by
  induction links generalizing place pieces with
  | zero =>
    induction pieces generalizing place with
    | nil => rw [locateFrom, stretch]
    | cons piece rest ih =>
      rw [locateFrom, stretch]
      simp only [ih]
      rfl
  | succ links outer =>
    induction pieces generalizing place with
    | nil => rw [locateFrom, stretch]
    | cons piece rest ih =>
      rw [locateFrom, stretch]
      simp only [ih, outer]
      rfl

theorem locate_eq_route (path : Path) : files.locate follows path = files.route follows path := by
  unfold locate route
  rw [locateFrom_eq_stretch]

end Route

variable {files : FileSystem} {path : Path}

/-- The place at the end of the way. -/
def arrive (files : FileSystem) (path : Path) : Except SystemError Place :=
  match files.route true path with
  | .ok (.present place) => .ok place
  | .ok (.absent _ _ _) => .error .notFound
  | .error error => .error error

theorem resolve_eq_arrive : files.resolve path = files.arrive path := by
  unfold resolve arrive
  rw [locate_eq_route]
  rcases files.route true path with error | ⟨place⟩ | ⟨folder, name, slashed⟩ <;> rfl

theorem resolve_of_arrive {outcome : Except SystemError Place} (led : files.arrive path = outcome) :
    files.resolve path = outcome :=
  resolve_eq_arrive.trans led

theorem isFolder_eq_arrive :
    files.isFolder path = (files.arrive path).toOption.any fun place => (files.node? place).any Node.isFolder := by
  unfold isFolder stat
  rw [resolve_eq_arrive]
  rcases files.arrive path with error | place
  · rfl
  · simp only [bind, Except.bind, pure, Except.pure, Except.toOption, Option.any_some]
    rcases files.node? place with _ | _ | _ | _ <;> rfl

end FileSystem

end BlockTemplates
