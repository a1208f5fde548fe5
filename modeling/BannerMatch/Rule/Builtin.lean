import BannerMatch.Rule.Basic

/-!
# Built-in rules

Rules for some common services.
-/

namespace BannerMatch

/-- The rules that are always at hand. -/
def builtinRules : List Rule := [
  { id := "nginx", service := "http", pattern := "(?i)nginx[/\\s]+(\\d+\\.\\d+\\.\\d+)",
    product := "nginx", version := "$1", confidence := 90, description := "Nginx Web Server",
    author := "builtin" },
  { id := "apache", service := "http", pattern := "(?i)Apache[/\\s]+(\\d+\\.\\d+\\.\\d+)",
    product := "Apache httpd", version := "$1", confidence := 90,
    description := "Apache HTTP Server", author := "builtin" },
  { id := "openssh", service := "ssh", pattern := "SSH-([.\\d]+)-OpenSSH[_\\s]+(\\S+)",
    product := "OpenSSH", version := "$2", info := "protocol $1", confidence := 95,
    description := "OpenSSH Server", author := "builtin" },
  { id := "mysql", service := "mysql", pattern := "(\\d+\\.\\d+\\.\\d+).*mysql",
    product := "MySQL", version := "$1", confidence := 90, description := "MySQL Database Server",
    author := "builtin" },
  { id := "ftp_vsftpd", service := "ftp", pattern := "220.*vsftpd\\s+(\\S+)",
    product := "vsftpd", version := "$1", confidence := 95, description := "vsftpd FTP Server",
    author := "builtin" },
  { id := "smtp_postfix", service := "smtp", pattern := "220.*Postfix", product := "Postfix",
    confidence := 85, description := "Postfix SMTP Server", author := "builtin" },
  { id := "redis", service := "redis", pattern := "\\+PONG\\r?\\n", product := "Redis",
    confidence := 95, description := "Redis Key-Value Store", author := "builtin" },
  { id := "iis", service := "http", pattern := "Microsoft-IIS[/\\s]+(\\d+\\.\\d+)",
    product := "Microsoft IIS httpd", version := "$1", confidence := 90,
    description := "Microsoft IIS Web Server", author := "builtin" }
]

end BannerMatch
