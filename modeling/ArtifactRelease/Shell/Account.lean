/-!
# Accounts

The users that every machine has, and the table that lists them.
-/

namespace ArtifactRelease.Shell

structure Account where
  name : String
  number : Nat
  group : Nat
  description : String
  home : String
  shell : String
  deriving Repr

def accounts : List Account :=
  [⟨"root", 0, 0, "root", "/root", "/bin/bash"⟩,
    ⟨"daemon", 1, 1, "daemon", "/usr/sbin", "/usr/sbin/nologin"⟩,
    ⟨"bin", 2, 2, "bin", "/bin", "/usr/sbin/nologin"⟩,
    ⟨"sys", 3, 3, "sys", "/dev", "/usr/sbin/nologin"⟩,
    ⟨"sync", 4, 65534, "sync", "/bin", "/bin/sync"⟩,
    ⟨"games", 5, 60, "games", "/usr/games", "/usr/sbin/nologin"⟩,
    ⟨"man", 6, 12, "man", "/var/cache/man", "/usr/sbin/nologin"⟩,
    ⟨"lp", 7, 7, "lp", "/var/spool/lpd", "/usr/sbin/nologin"⟩,
    ⟨"mail", 8, 8, "mail", "/var/mail", "/usr/sbin/nologin"⟩,
    ⟨"news", 9, 9, "news", "/var/spool/news", "/usr/sbin/nologin"⟩,
    ⟨"uucp", 10, 10, "uucp", "/var/spool/uucp", "/usr/sbin/nologin"⟩,
    ⟨"proxy", 13, 13, "proxy", "/bin", "/usr/sbin/nologin"⟩,
    ⟨"www-data", 33, 33, "www-data", "/var/www", "/usr/sbin/nologin"⟩,
    ⟨"backup", 34, 34, "backup", "/var/backups", "/usr/sbin/nologin"⟩,
    ⟨"list", 38, 38, "Mailing List Manager", "/var/list", "/usr/sbin/nologin"⟩,
    ⟨"irc", 39, 39, "ircd", "/run/ircd", "/usr/sbin/nologin"⟩,
    ⟨"_apt", 42, 65534, "", "/nonexistent", "/usr/sbin/nologin"⟩,
    ⟨"nobody", 65534, 65534, "nobody", "/nonexistent", "/usr/sbin/nologin"⟩]

def Account.line (account : Account) : String :=
  ":".intercalate
    [account.name, "x", toString account.number, toString account.group, account.description,
      account.home, account.shell] ++ "\n"

def accountTable : String :=
  String.join (accounts.map Account.line)

/-- The home directory of a user; that of the current one is `own`. -/
def homeOf? (own : Option String) (user : String) : Option String :=
  if user.isEmpty then own else (accounts.find? (·.name = user)).map (·.home)

end ArtifactRelease.Shell
