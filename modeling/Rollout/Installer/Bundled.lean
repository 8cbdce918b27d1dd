namespace Rollout.Installer

/-! The installer documents shipped with the program. -/

private def uptimeKuma : String :=
  "app: uptime-kuma
description: Self-hosted monitoring tool with status pages
domain_hint: status.example.com
min_spec:
  cpu: 1
  ram: 1GB
  disk: 10GB
dns:
  auto: provider_match
  records:
    - type: A
      name: \"\"
      ttl: 300
steps:
  - name: Install Docker
    log: Installing Docker on {opts.ServerIP}
    run: |
      export DEBIAN_FRONTEND=noninteractive
      apt-get update -y
      apt-get install -y docker.io nginx
      systemctl enable --now docker
  - name: Start Uptime Kuma
    run: |
      docker volume create uptime-kuma
      docker run -d --restart=always -p 127.0.0.1:3001:3001 \\
        -v uptime-kuma:/app/data --name uptime-kuma louislam/uptime-kuma:1
  - name: Configure reverse proxy
    run: |
      cat > /etc/nginx/sites-available/uptime-kuma <<'CONF'
      server \x7b
        listen 80;
        server_name {opts.Host};
        location / \x7b
          proxy_pass http://127.0.0.1:3001;
          proxy_http_version 1.1;
          proxy_set_header Upgrade $http_upgrade;
          proxy_set_header Connection \"upgrade\";
          proxy_set_header Host $host;
        \x7d
      \x7d
      CONF
      ln -sf /etc/nginx/sites-available/uptime-kuma /etc/nginx/sites-enabled/default
      systemctl reload nginx
  - name: Wait for DNS
    if: opts.EnableSSL
    sleep: 30s
    log: Requesting a certificate for {opts.Domain}
  - name: Request certificate
    if: opts.EnableSSL && !opts.HttpToHttpsRedirection
    run: |
      apt-get install -y certbot python3-certbot-nginx
      certbot --nginx --non-interactive --agree-tos -m {opts.Email} -d {opts.Domain} --no-redirect
  - name: Request certificate with redirect
    if: opts.EnableSSL && opts.HttpToHttpsRedirection
    run: |
      apt-get install -y certbot python3-certbot-nginx
      certbot --nginx --non-interactive --agree-tos -m {opts.Email} -d {opts.Domain} --redirect
"

private def gitea : String :=
  "app: gitea
description: Lightweight self-hosted Git service
domain_hint: git.example.com
min_spec:
  cpu: 1
  ram: 2GB
  disk: 20GB
dns:
  records:
    - type: A
      name: \"@\"
    - type: CNAME
      name: www
      content: \"{opts.Domain}\"
wizard:
  steps:
    application:
      custom_questions:
        - id: admin_user
          name: Administrator user name
          type: text
          required: true
          default: gitadmin
        - id: database
          name: Database backend
          type: choice
          choices:
            - name: sqlite3
              default: true
            - name: postgres
        - id: disable_registration
          name: Disable open registration
          type: boolean
          default: true
steps:
  - name: Install packages
    run: |
      export DEBIAN_FRONTEND=noninteractive
      apt-get update -y
      apt-get install -y git nginx sqlite3
  - name: Install Gitea
    log: Installing Gitea with the {opts.database} backend
    run: |
      adduser --system --group --disabled-password --home /var/lib/gitea git
      curl -fsSL -o /usr/local/bin/gitea https://dl.gitea.com/gitea/1.22/gitea-1.22-linux-amd64
      chmod +x /usr/local/bin/gitea
      mkdir -p /etc/gitea /var/lib/gitea/data
      chown -R git:git /etc/gitea /var/lib/gitea
  - name: Write configuration
    run: |
      cat > /etc/gitea/app.ini <<'CONF'
      [server]
      DOMAIN = {opts.Host}
      ROOT_URL = http://{opts.Host}/
      HTTP_ADDR = 127.0.0.1
      [database]
      DB_TYPE = {opts.database}
      [service]
      DISABLE_REGISTRATION = {opts.disable_registration}
      CONF
      chown git:git /etc/gitea/app.ini
  - name: Create administrator
    run: |
      sudo -u git gitea --config /etc/gitea/app.ini migrate
      sudo -u git gitea --config /etc/gitea/app.ini admin user create --admin \\
        --username {opts.admin_user} --random-password --email admin@{opts.Host}
  - name: Request certificate
    if: opts.EnableSSL
    run: |
      apt-get install -y certbot python3-certbot-nginx
      certbot --nginx --non-interactive --agree-tos -m {opts.Email} -d {opts.Domain}
"

private def openLiteSpeed : String :=
  "app: openlitespeed
description: OpenLiteSpeed web server with WordPress, driven through its interactive installer
domain_hint: blog.example.com
min_spec:
  cpu: 1
  ram: 1GB
  disk: 25GB
dns:
  auto: always
steps:
  - name: Download installer
    run: |
      curl -fsSL -o /root/ols1clk.sh https://raw.githubusercontent.com/litespeedtech/ols1clk/master/ols1clk.sh
      chmod +x /root/ols1clk.sh
  - name: Run installer
    log: The installer is interactive; answers are scripted
    run: /root/ols1clk.sh --wordpress --domain {opts.Host}
    tty:
      auto_answer:
        - wait_for: \"Do you still want to continue\"
          value: true
        - wait_for: \"Please input the email\"
          value: \"{opts.Email}\"
          timeout_ms: 120000
  - name: Issue certificate
    if: opts.EnableSSL
    tty:
      auto_answer:
        - wait_for: \"(?i)agree\"
          wait_for_regex: true
          value: \"y\"
    run: |
      /usr/local/lsws/admin/misc/lsup.sh -c
      certbot certonly --webroot -w /var/www/html -d {opts.Domain} -m {opts.Email} --agree-tos
"

/-- File names and texts, in the order in which they are registered. -/
def bundledDocuments : List (String × String) :=
  [("uptime-kuma.yaml", uptimeKuma), ("gitea.yaml", gitea), ("openlitespeed.yaml", openLiteSpeed)]

end Rollout.Installer
