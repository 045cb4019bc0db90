import ActionTree.Testing.Sh.Syntax

/-!
# Users and groups

The accounts of a system without users of its own. Everything runs as the first of them.

* `Account.all`, `Group.all`: the users and the groups.
* `Account.find?`: the user of a name or a number.
-/

namespace ActionTree.Sh

/-- A group: its name and its number. -/
structure Group where
  name : String
  number : Nat

/-- A user, with the number of their group and what is kept about them. -/
structure Account where
  name : String
  number : Nat
  group : Nat
  comment : String
  home : String
  shell : String

namespace Group

/-- The groups of a system. -/
def all : List Group :=
  [⟨"root", 0⟩, ⟨"daemon", 1⟩, ⟨"bin", 2⟩, ⟨"sys", 3⟩, ⟨"adm", 4⟩, ⟨"tty", 5⟩, ⟨"disk", 6⟩,
    ⟨"lp", 7⟩, ⟨"mail", 8⟩, ⟨"news", 9⟩, ⟨"uucp", 10⟩, ⟨"man", 12⟩, ⟨"proxy", 13⟩, ⟨"kmem", 15⟩,
    ⟨"dialout", 20⟩, ⟨"fax", 21⟩, ⟨"voice", 22⟩, ⟨"cdrom", 24⟩, ⟨"floppy", 25⟩, ⟨"tape", 26⟩,
    ⟨"sudo", 27⟩, ⟨"audio", 29⟩, ⟨"dip", 30⟩, ⟨"www-data", 33⟩, ⟨"backup", 34⟩, ⟨"operator", 37⟩,
    ⟨"list", 38⟩, ⟨"irc", 39⟩, ⟨"src", 40⟩, ⟨"shadow", 42⟩, ⟨"utmp", 43⟩, ⟨"video", 44⟩,
    ⟨"sasl", 45⟩, ⟨"plugdev", 46⟩, ⟨"staff", 50⟩, ⟨"games", 60⟩, ⟨"users", 100⟩,
    ⟨"nogroup", 65534⟩]

/-- The name of the group of a number, if there is one. -/
def name? (number : Nat) : Option String := (all.find? (·.number = number)).map (·.name)

/-- A line of the file of groups. -/
def line (g : Group) : String := g.name ++ ":x:" ++ toString g.number ++ ":\n"

end Group

namespace Account

/-- The shell of those who are not meant to use one. -/
def noShell : String := "/usr/sbin/nologin"

/-- The users of a system. -/
def all : List Account :=
  [⟨"root", 0, 0, "root", "/root", "/bin/bash"⟩, ⟨"daemon", 1, 1, "daemon", "/usr/sbin", noShell⟩,
    ⟨"bin", 2, 2, "bin", "/bin", noShell⟩, ⟨"sys", 3, 3, "sys", "/dev", noShell⟩,
    ⟨"sync", 4, 65534, "sync", "/bin", "/bin/sync"⟩,
    ⟨"games", 5, 60, "games", "/usr/games", noShell⟩,
    ⟨"man", 6, 12, "man", "/var/cache/man", noShell⟩, ⟨"lp", 7, 7, "lp", "/var/spool/lpd", noShell⟩,
    ⟨"mail", 8, 8, "mail", "/var/mail", noShell⟩,
    ⟨"news", 9, 9, "news", "/var/spool/news", noShell⟩,
    ⟨"uucp", 10, 10, "uucp", "/var/spool/uucp", noShell⟩,
    ⟨"proxy", 13, 13, "proxy", "/bin", noShell⟩,
    ⟨"www-data", 33, 33, "www-data", "/var/www", noShell⟩,
    ⟨"backup", 34, 34, "backup", "/var/backups", noShell⟩,
    ⟨"list", 38, 38, "Mailing List Manager", "/var/list", noShell⟩,
    ⟨"irc", 39, 39, "ircd", "/run/ircd", noShell⟩,
    ⟨"_apt", 42, 65534, "", "/nonexistent", noShell⟩,
    ⟨"nobody", 65534, 65534, "nobody", "/nonexistent", noShell⟩]

/-- The user as whom everything runs. -/
def own : Account := ⟨"root", 0, 0, "root", "/root", "/bin/bash"⟩

/-- The user of a name, or of a number. -/
def find? (text : Bytes) : Option Account :=
  all.find? fun a => a.name.toList = text || (toString a.number).toList = text

/-- The name of a user's group, or its number if it has none. -/
def groupName (a : Account) : String := (Group.name? a.group).getD (toString a.group)

/-- A line of the file of users. -/
def line (a : Account) : String :=
  ":".intercalate
    [a.name, "x", toString a.number, toString a.group, a.comment, a.home, a.shell] ++ "\n"

end Account

end ActionTree.Sh
