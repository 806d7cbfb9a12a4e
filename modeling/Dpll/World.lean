import Dpll.File.Tree
import Dpll.Host

/-!
A host that is a value: files, what the clock will say, and what has been said so far.
-/

namespace Dpll

structure World where
  files : FileTree
  /-- What the polls of a search with this limit will say. -/
  clock : Option Nat → Schedule
  printed : String := ""
  /-- The latest first. -/
  notices : List Notice := []

namespace World

def write (path : String) (bytes : ByteArray) (w : World) : Except FileError Unit × World :=
  match w.files.write path bytes with
  | .error e => (.error e, w)
  | .ok files => (.ok (), { w with files })

def host : Host (StateM World) where
  read path := fun w => (w.files.read path, w)
  write := write
  startClock timeout := fun w => (fun visited => pure (w.clock timeout visited), w)
  elapsed := pure 0
  print text := modify fun w => { w with printed := w.printed ++ text }
  notify notice := modify fun w => { w with notices := notice :: w.notices }

end World

end Dpll
