/-
# A machine to start with

The files that every machine has before anything is put on it: the usual directories, the installed
programs in `/usr/bin`, which `/bin` leads to as well, and the devices.
-/
import CommandShell.Machine.World

namespace CommandShell

namespace FileSystem

def devices : List (String × Device) :=
  [("null", .null), ("full", .full), ("zero", .zero), ("stdin", .own 0), ("stdout", .own 1),
    ("stderr", .own 2)]

def directories : List Location :=
  [["boot"], ["dev"], ["etc"], ["home"], ["media"], ["mnt"], ["opt"], ["proc"], ["root"], ["run"],
    ["srv"], ["sys"], ["tmp"], ["usr", "bin"], ["usr", "lib"], ["usr", "local", "bin"],
    ["usr", "local", "sbin"], ["usr", "sbin"], ["usr", "share"], ["var", "log"], ["var", "tmp"]]

/-- The directories of the root that are found below `/usr`. -/
def moved : List String := ["bin", "lib", "sbin"]

/-- The usual directories with the installed programs and the devices. -/
def installed : FileSystem :=
  let fs := directories.foldl addDirectories empty
  let fs := moved.foldl (fun fs name => fs.set [name] (.link ("usr/" ++ name))) fs
  let fs := Utility.all.foldl (fun fs u => fs.set ["usr", "bin", u.name] (.program u)) fs
  devices.foldl (fun fs (name, d) => fs.set ["dev", name] (.device d)) fs

end FileSystem

namespace World

/-- A machine on which nothing runs, with an existing directory as the current one. -/
def booted (files : FileSystem) (directory : Location) : World := { files, directory }

end World
end CommandShell
