import Brokerage.Journal.Notice
import Brokerage.Settings.Journal
import Brokerage.Table
import Brokerage.Text.Path

namespace Brokerage

/-!
Where the journal goes.

Entries go to the terminal and, when the settings name a directory, to a file
in it as well.  The system may refuse to make the directory or to keep the
file.  New settings replace the old ones; what has been written stays.
-/

/-- A line of the journal. -/
structure JournalEntry where
  level : Level
  text : String
  deriving DecidableEq, Repr

/-- Why the journal is not kept where its settings say, in the words of the system. -/
inductive JournalError where
  | directory (name wording : String)
  | file (directory wording : String)
  deriving DecidableEq, Repr

/-- What the system says of an error. -/
def JournalError.wording : JournalError -> String
  | .directory _ wording => wording
  | .file _ wording => wording

/-- What the system says to keeping the journal in files: what is wrong, if anything is. -/
structure Filing where
  /-- To making a directory, unless it is there. -/
  makeDirectory : String -> Option String
  /-- To opening a file in a directory that is begun anew and kept as the settings say. -/
  openFile : (directory : String) -> Level -> (rotation retention : String) -> Option String

/-- The system lets every journal be kept. -/
def Filing.free : Filing where
  makeDirectory _ := none
  openFile _ _ _ _ := none

/-- The journal: its settings once it has any, and everything written so far. -/
structure Journal where
  settings : Option JournalSettings := none
  terminal : List JournalEntry := []
  /-- What is in the file of each directory. -/
  files : Table String (List JournalEntry) := Table.empty

namespace Journal

/-- The directory whose file is written, if there is one. -/
def directory? (settings : JournalSettings) : Option String :=
  (settings.directory.filter fun directory => !directory.isEmpty).map Text.shortPath

/-- Append entries to the file of a directory. -/
def append (files : Table String (List JournalEntry)) (directory : String)
    (entries : List JournalEntry) : Table String (List JournalEntry) :=
  files.put directory ((files.get? directory).getD [] ++ entries)

/-- Write an entry, if it is important enough. -/
def write (journal : Journal) (entry : JournalEntry) : Journal :=
  match journal.settings with
  | none => journal
  | some settings =>
      if entry.level.reaches settings.level then
        { journal with
          terminal := journal.terminal ++ [entry]
          files :=
            match directory? settings with
            | some directory => append journal.files directory [entry]
            | none => journal.files }
      else journal

/-- Write notices one after the other. -/
def report (journal : Journal) (notices : List (Notice Float)) : Journal :=
  notices.foldl
    (fun journal notice => journal.write { level := notice.level, text := notice.text }) journal

/-- The files to go on with under new settings; the one that they ask for is there from now on. -/
def files? (filing : Filing) (journal : Journal) (settings : JournalSettings) :
    Except JournalError (Table String (List JournalEntry)) :=
  match directory? settings with
  | none => .ok journal.files
  | some directory =>
      match filing.makeDirectory directory with
      | some wording => .error (.directory directory wording)
      | none =>
          match filing.openFile directory settings.level settings.rotation settings.retention with
          | some wording => .error (.file directory wording)
          | none => .ok (append journal.files directory [])

/-- Go on under new settings, if their file can be kept; the change is reported. -/
def configure? (filing : Filing) (journal : Journal) (settings : JournalSettings) :
    Except JournalError Journal :=
  match journal.files? filing settings with
  | .error error => .error error
  | .ok files =>
      .ok ({ journal with settings := some settings, files }.report
        [.journalConfigured settings.level settings.directory])

end Journal
end Brokerage
