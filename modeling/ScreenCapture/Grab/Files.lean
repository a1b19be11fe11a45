import ScreenCapture.Grab

namespace ScreenCapture.Grab

/-- A place in the tree of directories: the names on the way from it up to the root. -/
abbrev Place := List String

namespace Place

def step (place : Place) (name : String) : Place :=
  if name = "" ∨ name = "." then place
  else if name = ".." then place.tail
  else name :: place

/-- The places that a path goes through, the last one being what it names. -/
def through (place : Place) : List String → List Place
  | [] => []
  | name :: names => place.step name :: through (place.step name) names

def names (path : String) : List String := path.splitOn "/"

def ofPath (path : String) : Place := (names path).foldl step []

end Place

structure FileStore where
  directories : List Place
  files : List (Place × ByteArray)

namespace FileStore

def empty : FileStore := ⟨[], []⟩

variable (store : FileStore)

def HasFile (place : Place) : Prop := place ∈ store.files.map Prod.fst

instance (place : Place) : Decidable (store.HasFile place) :=
  inferInstanceAs (Decidable (_ ∈ _))

def HasDirectory (place : Place) : Prop := place = [] ∨ place ∈ store.directories

instance (place : Place) : Decidable (store.HasDirectory place) :=
  inferInstanceAs (Decidable (_ ∨ _))

def addDirectories (places : List Place) : FileStore :=
  { store with directories := store.directories ++ places }

def putFile (place : Place) (content : ByteArray) : FileStore :=
  { store with files := store.files.filter (·.1 ≠ place) ++ [(place, content)] }

def makeDirectory (path : String) : Except String FileStore :=
  let places := Place.through [] (Place.names path)
  if store.HasFile (Place.ofPath path) then .error "File exists (os error 17)"
  else if places.any (store.HasFile ·) then .error "Not a directory (os error 20)"
  else .ok (store.addDirectories places)

def writeFile (path : String) (content : ByteArray) : Except String FileStore :=
  let place := Place.ofPath path
  if store.HasDirectory place then .error "Is a directory (os error 21)"
  else if store.HasFile place.tail then .error "Not a directory (os error 20)"
  else if ¬ store.HasDirectory place.tail then .error "No such file or directory (os error 2)"
  else .ok (store.putFile place content)

def filesIn (directory : String) : List (String × ByteArray) :=
  let inside := store.files.filterMap fun (place, content) ↦
    match place with
    | [] => none
    | name :: parent => if parent = Place.ofPath directory then some (name, content) else none
  inside.mergeSort fun a b ↦ decide (a.1 ≤ b.1)

end FileStore

structure Bench (ω : Type) where
  world : ω
  files : FileStore
  output : String

namespace Bench

variable {ω : Type}

def perform {α : Type} (act : StateM ω α) : StateM (Bench ω) α := fun bench ↦
  let (a, world) := act bench.world
  (a, { bench with world })

def edit (change : FileStore → Except String FileStore) :
    StateM (Bench ω) (Except String Unit) := fun bench ↦
  match change bench.files with
  | .ok files => (.ok (), { bench with files })
  | .error text => (.error text, bench)

def shell : Shell (StateM (Bench ω)) where
  print line := modify fun bench ↦ { bench with output := bench.output ++ line }
  makeDirectory path := edit (·.makeDirectory path)
  writeFile path content := edit (·.writeFile path content)

def run (h : Host ω) (patience : Nat) (args : List String) (bench : Bench ω) :
    Except (Failure Cause) Unit × Bench ω :=
  Grab.run shell h perform patience args bench

end Bench

end ScreenCapture.Grab
